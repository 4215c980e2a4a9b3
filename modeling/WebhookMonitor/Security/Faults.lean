import WebhookMonitor.Security.Acceptance

/-!
# Token faults and provider faults

An error of `authenticate` is either the token's (401) or the provider's (503).
`Classified` says what that asks of one run: no other exception leaves the call,
an exchange that yields no usable document makes the error the provider's, and
without one, and with well-formed keys, the error is the token's.

The code does not always keep to it.  `Faultless` lists what has to be absent from
a run, and `classified_iff_faultless` is the equivalence:

* a `typ` that cannot be hashed, and an exception PyJWT lets through;
* an HTTP exception outside the `RequestError` family, a status that is neither
  200 nor 429 nor at least 500, and a body nested too deep for the interpreter;
* a well-formed key that is not of the type the token's algorithm needs.
-/

namespace WebhookMonitor

open Python Interaction

variable {κ : Type}

/-! ## The two kinds of faults -/

/-- An `InvalidManagementTokenError`. -/
def IsTokenFault (e : AppError) : Prop := ∃ message, e = .invalidManagementToken message

/-- A `ManagementIdentityProviderUnavailableError`. -/
def IsProviderFault (e : AppError) : Prop :=
  ∃ message, e = .managementIdentityProviderUnavailable message

theorem not_isTokenFault_python (e : BuiltinError) : ¬ IsTokenFault (.python e) := nofun

theorem not_isProviderFault_python (e : BuiltinError) : ¬ IsProviderFault (.python e) := nofun

/-- A key document with a list of keys that is not empty. -/
def HasKeys (jwks : Members) : Prop := ∃ keys, Members.get jwks "keys" = .list keys ∧ keys ≠ []

/-- Every key of the document is one the library can build for some algorithm. -/
def KeysWellFormed (jwt : PyJwt κ) (jwks : Members) : Prop :=
  ∀ keys, Members.get jwks "keys" = .list keys → ∀ item ∈ keys,
    ∃ jwk, item = .dict jwk ∧ ∃ alg key, jwt.fromDict jwk alg = .ok key

/-- A discovery document of the configured issuer. -/
def IsDiscoveryDocument (config : OidcJwtConfig) (payload : Members) : Prop :=
  Members.get payload "issuer" = .str config.issuer ∧
    ∃ jwksUri, Members.get payload "jwks_uri" = .str jwksUri ∧ Str.lit "https://" <+: jwksUri

/-- An answer of the provider the code keeps apart from token faults. -/
def KeptApart (limit : RecursionLimit) : ProviderAnswer → Prop
  | .error e => e.isRequestError = true
  | .ok response =>
      (response.statusCode = 200 ∨ response.statusCode = 429 ∨ 500 ≤ response.statusCode) ∧
        (response.statusCode = 200 → ∀ e, loadsBytes limit response.content = .error e →
          e.isValueError = true)

namespace OidcJwtManagementAuthenticator

section Statements

variable (auth : OidcJwtManagementAuthenticator κ)

/-- The answer is a usable document of its kind. -/
def Yields (endpoint : Endpoint) (answer : ProviderAnswer) : Prop :=
  ∃ response payload, answer = .ok response ∧ response.statusCode = 200 ∧
    loadsBytes auth.recursionLimit response.content = .ok (.dict payload) ∧
    match endpoint with
    | .discovery => IsDiscoveryDocument auth.config payload
    | .jwks => HasKeys payload

/-- The faults of a run are told apart. -/
structure Classified (es : List (Event (AuthenticatorEffects κ)))
    (r : Except AppError ManagementPrincipal) : Prop where
  /-- No other exception leaves the call. -/
  known : ∀ e, r = .error e → IsTokenFault e ∨ IsProviderFault e
  /-- An exchange that yields no usable document is the provider's fault. -/
  provider : ∀ request number answer, ⟨.receive request number, answer⟩ ∈ es →
    ¬ auth.Yields request.endpoint answer → ∃ e, r = .error e ∧ IsProviderFault e
  /-- With usable documents and well-formed keys a fault is the token's. -/
  token : (∀ request number answer, ⟨.receive request number, answer⟩ ∈ es →
      auth.Yields request.endpoint answer) →
    (∀ jwks, auth.Obtained es jwks → HasKeys jwks ∧ KeysWellFormed auth.jwt jwks) →
    ∀ e, r = .error e → IsTokenFault e

/-- The library is asked for a key made of this entry of the document. -/
def Builds (token : BearerToken) (jwks jwk : Members) : Prop :=
  ∃ keys, Members.get jwks "keys" = .list keys ∧ (token.kid = none → keys.length = 1) ∧
    entryFor token.kid token.alg keys = some jwk ∧ Members.get jwk "kty" ≠ .str "oct"

/-- Nothing happens in a run that the code classifies wrongly. -/
structure Faultless (c : HTTPAuthorizationCredentials)
    (es : List (Event (AuthenticatorEffects κ))) : Prop where
  /-- The library reads the header or raises an error of its own. -/
  header : ∀ e, auth.jwt.getUnverifiedHeader c.credentials ≠ .error (.python e)
  /-- The type in the header can be hashed. -/
  hashable : ∀ header, auth.jwt.getUnverifiedHeader c.credentials = .ok header →
    isAccessTokenType (Members.get header "typ") ≠ .error .typeError
  /-- The issuer has a location for its discovery document, when that is needed. -/
  issuer : ∀ now cached, ⟨.loadMetadata now, cached⟩ ∈ es → cached.fresh now = none →
    metadataUrl auth.config.issuer ≠ none
  exchanges : ∀ request number answer, ⟨.receive request number, answer⟩ ∈ es →
    KeptApart auth.recursionLimit answer
  /-- A key that is not built for the token is not well formed, or another is not. -/
  keys : ∀ token jwks jwk, auth.checkToken (some c) = .ok token → auth.Obtained es jwks →
    Builds token jwks jwk → (∀ e, auth.jwt.fromDict jwk token.alg ≠ .error (.python e)) ∧
      (auth.jwt.fromDict jwk token.alg = .error .pyJwtError →
        ∃ jwks', auth.Obtained es jwks' ∧ ¬ KeysWellFormed auth.jwt jwks')
  /-- The library decodes the token or raises an error of its own. -/
  decode : ∀ request e, ⟨.decode request, .error (.python e)⟩ ∉ es

end Statements

end OidcJwtManagementAuthenticator

/-! ## The exchanges -/

section Exchanges

variable {limit : RecursionLimit} {name : String} {answer : ProviderAnswer}

/-- An answer the code keeps apart yields an object or is the provider's fault. -/
theorem providerDocument_of_keptApart (name : String) (apart : KeptApart limit answer) :
    (∃ payload, providerDocument limit name answer = .ok payload) ∨
      ∃ e, providerDocument limit name answer = .error e ∧ IsProviderFault e := by
  cases answer with
  | error e => exact .inr ⟨_, if_pos apart, _, rfl⟩
  | ok response =>
      obtain ⟨status, body⟩ := apart
      by_cases unavailable : response.statusCode ≥ 500 ∨ response.statusCode = 429
      · exact .inr ⟨_, if_pos unavailable, _, rfl⟩
      · have ok : response.statusCode = 200 := by omega
        rw [providerDocument, if_neg unavailable, if_neg (not_not.mpr ok)]
        cases hload : loadsBytes limit response.content with
        | error e => exact .inr ⟨_, if_pos (body ok e hload), _, rfl⟩
        | ok value =>
            cases value with
            | dict payload => exact .inl ⟨payload, rfl⟩
            | null | bool | int | float | str | list => exact .inr ⟨_, rfl, _, rfl⟩

theorem keptApart_of_ok {payload : Members} (h : providerDocument limit name answer = .ok payload) :
    KeptApart limit answer := by
  obtain ⟨response, rfl, status, hload⟩ := providerDocument_ok.mp h
  exact ⟨.inl status, fun _ e failed => by rw [hload] at failed; cases failed⟩

/-- An error of the provider's comes from such an answer only. -/
theorem keptApart_of_providerFault {e : AppError}
    (failed : providerDocument limit name answer = .error e) (fault : IsProviderFault e) :
    KeptApart limit answer := by
  obtain ⟨message, rfl⟩ := fault
  cases answer with
  | error e =>
      simp only [providerDocument] at failed
      split_ifs at failed with request
      · exact request
      · cases failed
  | ok response =>
      simp only [providerDocument] at failed
      split_ifs at failed with unavailable rejected
      · refine ⟨by omega, fun ok => ?_⟩
        rw [ok] at unavailable
        omega
      · cases failed
      · refine ⟨.inl (not_not.mp rejected), fun _ e hload => ?_⟩
        simp only [hload] at failed
        split_ifs at failed with value
        · exact value
        · cases failed

end Exchanges

/-! ## One event -/

namespace OidcJwtManagementAuthenticator

variable {self : OidcJwtManagementAuthenticator κ} {es : List (Event (AuthenticatorEffects κ))}

/-- The document an answer yields, or an error: the provider's, if the answer can be kept
apart. -/
theorem metadataOfAnswer_cases (self : OidcJwtManagementAuthenticator κ) (answer : ProviderAnswer) :
    (∃ metadata, self.metadataOfAnswer answer = .ok metadata ∧
        KeptApart self.recursionLimit answer ∧ self.Yields .discovery answer) ∨
      ∃ e, self.metadataOfAnswer answer = .error e ∧ ¬ self.Yields .discovery answer ∧
        (IsProviderFault e ↔ KeptApart self.recursionLimit answer) := by
  cases hpayload : providerDocument self.recursionLimit "OIDC discovery" answer with
  | error e =>
      refine .inr ⟨e, by rw [metadataOfAnswer, hpayload]; rfl, ?_, ?_⟩
      · rintro ⟨response, payload, rfl, status, hload, -⟩
        rw [providerDocument_ok.mpr ⟨response, rfl, status, hload⟩] at hpayload
        cases hpayload
      · refine ⟨keptApart_of_providerFault hpayload, fun apart => ?_⟩
        rcases providerDocument_of_keptApart "OIDC discovery" apart with
          ⟨payload, h⟩ | ⟨e', h, fault⟩
        · rw [hpayload] at h; cases h
        · rw [hpayload] at h; cases h; exact fault
  | ok payload =>
      have apart := keptApart_of_ok hpayload
      have read : self.metadataOfAnswer answer = metadataOfDocument self.config payload := by
        rw [metadataOfAnswer, hpayload]
        rfl
      obtain ⟨response, rfl, status, hload⟩ := providerDocument_ok.mp hpayload
      have yields_iff : self.Yields .discovery (.ok response) ↔
          IsDiscoveryDocument self.config payload := by
        constructor
        · rintro ⟨response', payload', eq, -, hload', discovery⟩
          cases eq
          rw [hload] at hload'
          cases hload'
          exact discovery
        · exact fun discovery => ⟨response, payload, rfl, status, hload, discovery⟩
      rw [read, yields_iff, metadataOfDocument]
      cases hissuer : (Members.get payload "issuer").eqStr self.config.issuer with
      | false =>
          refine .inr ⟨_, rfl, ?_, iff_of_true ⟨_, rfl⟩ apart⟩
          rintro ⟨same, -⟩
          rw [Json.eqStr_iff.mpr same] at hissuer
          cases hissuer
      | true =>
          cases huri : Members.get payload "jwks_uri" with
          | str jwksUri =>
              cases hhttps : startsWith jwksUri "https://" with
              | true =>
                  exact .inl ⟨_, if_pos hhttps, apart, Json.eqStr_iff.mp hissuer, jwksUri, huri,
                    List.isPrefixOf_iff_prefix.mp hhttps⟩
              | false =>
                  refine .inr ⟨_, if_neg (Bool.eq_false_iff.mp hhttps), ?_,
                    iff_of_true ⟨_, rfl⟩ apart⟩
                  rintro ⟨-, uri, isUri, https⟩
                  rw [huri] at isUri
                  cases isUri
                  rw [startsWith, List.isPrefixOf_iff_prefix.mpr https] at hhttps
                  cases hhttps
          | null | bool | int | float | list | dict =>
              refine .inr ⟨_, rfl, ?_, iff_of_true ⟨_, rfl⟩ apart⟩
              rintro ⟨-, uri, isUri, -⟩
              rw [huri] at isUri
              cases isUri

theorem jwksOfAnswer_cases (self : OidcJwtManagementAuthenticator κ) (answer : ProviderAnswer) :
    (∃ jwks, self.jwksOfAnswer answer = .ok jwks ∧ KeptApart self.recursionLimit answer ∧
        (HasKeys jwks → self.Yields .jwks answer)) ∨
      ∃ e, self.jwksOfAnswer answer = .error e ∧ ¬ self.Yields .jwks answer ∧
        (IsProviderFault e ↔ KeptApart self.recursionLimit answer) := by
  cases hpayload : self.jwksOfAnswer answer with
  | error e =>
      refine .inr ⟨e, rfl, ?_, keptApart_of_providerFault hpayload, fun apart => ?_⟩
      · rintro ⟨response, payload, rfl, status, hload, -⟩
        rw [jwksOfAnswer, providerDocument_ok.mpr ⟨response, rfl, status, hload⟩] at hpayload
        cases hpayload
      · rcases providerDocument_of_keptApart "OIDC JWKS" apart with
          ⟨payload, h⟩ | ⟨e', h, fault⟩
        · rw [← jwksOfAnswer, hpayload] at h; cases h
        · rw [← jwksOfAnswer, hpayload] at h; cases h; exact fault
  | ok jwks =>
      refine .inl ⟨jwks, rfl, keptApart_of_ok hpayload, fun keys => ?_⟩
      obtain ⟨response, rfl, status, hload⟩ := providerDocument_ok.mp hpayload
      exact ⟨response, jwks, rfl, status, hload, keys⟩

/-- An exchange of a run fails, or its answer is usable but perhaps for its keys. -/
theorem receive_cases (self : OidcJwtManagementAuthenticator κ) {request : ProviderRequest}
    {number : ℕ} {answer : ProviderAnswer} (mem : ⟨.receive request number, answer⟩ ∈ es) :
    (∃ e, self.failure ⟨.receive request number, answer⟩ = some e ∧
        ¬ self.Yields request.endpoint answer ∧
        (IsProviderFault e ↔ KeptApart self.recursionLimit answer)) ∨
      self.failure ⟨.receive request number, answer⟩ = none ∧
        KeptApart self.recursionLimit answer ∧
        (self.Yields request.endpoint answer ∨
          ∃ d ∈ (self.observed es).documents, ¬ HasKeys d.2) := by
  obtain ⟨endpoint, url⟩ := request
  cases endpoint with
  | discovery =>
      rcases self.metadataOfAnswer_cases answer with
        ⟨metadata, h, apart, yields⟩ | ⟨e, h, fails, fault⟩
      · exact .inr ⟨by simp [failure, h, raised], apart, .inl yields⟩
      · exact .inl ⟨e, by simp [failure, h, raised], fails, fault⟩
  | jwks =>
      rcases self.jwksOfAnswer_cases answer with
        ⟨jwks, h, apart, yields⟩ | ⟨e, h, fails, fault⟩
      · refine .inr ⟨by simp [failure, h, raised], apart, ?_⟩
        by_cases keys : HasKeys jwks
        · exact .inl (yields keys)
        · refine .inr ⟨(.fetched, jwks), List.mem_filterMap.mpr ⟨_, mem, ?_⟩, keys⟩
          simp [keyDocument, h, Except.toOption]
      · exact .inl ⟨e, by simp [failure, h, raised], fails, fault⟩

/-- What a call obtained it has looked into. -/
theorem keyDocument_of_obtained {jwks : Members} (obtained : self.Obtained es jwks) :
    ∃ source, (source, jwks) ∈ (self.observed es).documents := by
  rcases obtained with ⟨now, cached, mem, hvalue, before⟩ |
    ⟨url, number, response, mem, status, hload⟩
  · refine ⟨.cached, List.mem_filterMap.mpr ⟨_, mem, ?_⟩⟩
    have fresh : cached.fresh now = some jwks := by
      rw [Cached.fresh, hvalue, Option.filter_some, if_pos (decide_eq_true before)]
    simp [keyDocument, fresh]
  · refine ⟨.fetched, List.mem_filterMap.mpr ⟨_, mem, ?_⟩⟩
    have read : self.jwksOfAnswer (.ok response) = .ok jwks :=
      providerDocument_ok.mpr ⟨response, rfl, status, hload⟩
    simp [keyDocument, read, Except.toOption]

/-! ## The documents -/

/-- What becomes of a document with an entry the library is asked for. -/
theorem signingKeyOf_of_builds {token : BearerToken} {jwks jwk : Members}
    (builds : Builds token jwks jwk) :
    signingKeyOf self.jwt token.kid token.alg jwks =
      match self.jwt.fromDict jwk token.alg with
      | .ok key => .ok (some key)
      | .error .pyJwtError => .error (.managementIdentityProviderUnavailable "JWKS key was invalid")
      | .error (.python e) => .error (.python e) := by
  obtain ⟨keys, isKeys, single, found, asymmetric⟩ := builds
  have nonempty : keys ≠ [] := by
    rintro rfl
    cases found
  have one : ¬ (token.kid = none ∧ keys.length ≠ 1) := fun h => h.2 (single h.1)
  have oct : ¬ (Members.get jwk "kty").eqStr "oct" = true := fun h =>
    asymmetric (Json.eqStr_iff.mp h)
  rw [signingKeyOf, isKeys]
  refine (if_neg nonempty).trans ((if_neg one).trans ?_)
  rw [selectKey_eq, found]
  refine (if_neg oct).trans ?_
  cases self.jwt.fromDict jwk token.alg with
  | ok key => rfl
  | error e => cases e <;> rfl

/-- A document that yields no key: it has none, or the token is at fault, or the library
is asked for one. -/
theorem signingKeyOf_cases (self : OidcJwtManagementAuthenticator κ) (token : BearerToken)
    (jwks : Members) :
    (¬ HasKeys jwks ∧ ∃ e, signingKeyOf self.jwt token.kid token.alg jwks = .error e ∧
        IsProviderFault e) ∨
      HasKeys jwks ∧ ((∃ jwk, Builds token jwks jwk) ∨ (¬ ∃ jwk, Builds token jwks jwk) ∧
        (signingKeyOf self.jwt token.kid token.alg jwks = .ok none ∨
          ∃ e, signingKeyOf self.jwt token.kid token.alg jwks = .error e ∧ IsTokenFault e)) := by
  cases hkeys : Members.get jwks "keys" with
  | null | bool | int | float | str | dict =>
      refine .inl ⟨?_, _, by rw [signingKeyOf, hkeys], _, rfl⟩
      rintro ⟨keys, isKeys, -⟩
      rw [hkeys] at isKeys
      cases isKeys
  | list keys =>
      -- what `Builds` says of this document
      have builds_iff : ∀ jwk, Builds token jwks jwk ↔ (token.kid = none → keys.length = 1) ∧
          entryFor token.kid token.alg keys = some jwk ∧ Members.get jwk "kty" ≠ .str "oct" := by
        intro jwk
        constructor
        · rintro ⟨keys', isKeys, rest⟩
          rw [hkeys] at isKeys
          cases isKeys
          exact rest
        · exact fun rest => ⟨keys, hkeys, rest⟩
      by_cases empty : keys = []
      · refine .inl ⟨?_, .managementIdentityProviderUnavailable "JWKS was invalid", ?_, _, rfl⟩
        · rintro ⟨keys', isKeys, nonempty⟩
          rw [hkeys] at isKeys
          cases isKeys
          exact nonempty empty
        · rw [signingKeyOf, hkeys]
          exact if_pos empty
      · refine .inr ⟨⟨keys, hkeys, empty⟩, ?_⟩
        -- without a key id there has to be one key
        by_cases several : token.kid = none ∧ keys.length ≠ 1
        · refine .inr ⟨?_, .inr ⟨.invalidManagementToken "Missing key id", ?_, _, rfl⟩⟩
          · rintro ⟨jwk, builds⟩
            exact several.2 (((builds_iff jwk).mp builds).1 several.1)
          · rw [signingKeyOf, hkeys]
            exact (if_neg empty).trans (if_pos several)
        · have loop : signingKeyOf self.jwt token.kid token.alg jwks =
              selectKey self.jwt token.kid token.alg keys := by
            rw [signingKeyOf, hkeys]
            exact (if_neg empty).trans (if_neg several)
          have single : token.kid = none → keys.length = 1 := fun kid => by
            by_contra many
            exact several ⟨kid, many⟩
          cases hentry : entryFor token.kid token.alg keys with
          | none =>
              refine .inr ⟨?_, .inl (by rw [loop, selectKey_eq, hentry])⟩
              rintro ⟨jwk, builds⟩
              rw [((builds_iff jwk).mp builds).2.1] at hentry
              cases hentry
          | some jwk =>
              by_cases oct : Members.get jwk "kty" = .str "oct"
              · refine .inr ⟨?_, .inr
                  ⟨.invalidManagementToken "Unsupported symmetric key", ?_, _, rfl⟩⟩
                · rintro ⟨jwk', builds⟩
                  obtain ⟨-, found, asymmetric⟩ := (builds_iff jwk').mp builds
                  rw [hentry] at found
                  cases found
                  exact asymmetric oct
                · rw [loop, selectKey_eq, hentry]
                  exact if_pos (Json.eqStr_iff.mpr oct)
              · exact .inl ⟨jwk, (builds_iff jwk).mpr ⟨single, hentry, oct⟩⟩

/-- Where no entry is for the token there are keys, and none is asked for. -/
theorem missed_spec {token : BearerToken} {jwks : Members}
    (missed : signingKeyOf self.jwt token.kid token.alg jwks = .ok none) :
    HasKeys jwks ∧ ∀ jwk, ¬ Builds token jwks jwk := by
  rcases self.signingKeyOf_cases token jwks with
    ⟨-, e, failed, -⟩ | ⟨keys, -⟩
  · rw [missed] at failed
    cases failed
  · refine ⟨keys, fun jwk builds => ?_⟩
    rw [signingKeyOf_of_builds builds] at missed
    split at missed <;> cases missed

/-! ## The endings -/

variable {c : HTTPAuthorizationCredentials} {r : Except AppError ManagementPrincipal}

theorem requireKeyId_error {value : Json} {f : Option Str → BearerToken} {e : AppError}
    (failed : (requireKeyId value).map f = .error e) : IsTokenFault e := by
  cases value with
  | null | str => cases failed
  | bool | int | float | list | dict => cases failed; exact ⟨_, rfl⟩

/-- The checks of the header fail for the token, or raise what they should not. -/
theorem checkToken_error {e : AppError} (bearer : lower c.scheme = Str.lit "bearer")
    (failed : self.checkToken (some c) = .error e) :
    IsTokenFault e ∨ ∃ e', e = .python e' ∧
      (self.jwt.getUnverifiedHeader c.credentials = .error (.python e') ∨
        ∃ header, self.jwt.getUnverifiedHeader c.credentials = .ok header ∧
          isAccessTokenType (Members.get header "typ") = .error .typeError) := by
  rw [checkToken] at failed
  simp only [bearer, ne_eq, not_true_eq_false, if_false] at failed
  cases hheader : self.jwt.getUnverifiedHeader c.credentials with
  | error e' =>
      rw [hheader] at failed
      cases e' with
      | pyJwtError => cases failed; exact .inl ⟨_, rfl⟩
      | python e' => cases failed; exact .inr ⟨e', rfl, .inl rfl⟩
  | ok header =>
      simp only [hheader, checkHeader] at failed
      cases htyp : isAccessTokenType (Members.get header "typ") with
      | error e' =>
          simp only [htyp] at failed
          have isTypeError : e' = .typeError := by
            cases hjson : Members.get header "typ" with
            | list | dict => rw [hjson] at htyp; cases htyp; rfl
            | null | bool | int | float | str => rw [hjson] at htyp; cases htyp
          subst isTypeError
          cases failed
          exact .inr ⟨_, rfl, .inr ⟨header, rfl, htyp⟩⟩
      | ok accessToken =>
          refine .inl ?_
          cases accessToken with
          | false => simp only [htyp] at failed; cases failed; exact ⟨_, rfl⟩
          | true =>
              simp only [htyp] at failed
              split at failed
              · split_ifs at failed
                · cases failed; exact ⟨_, rfl⟩
                · exact requireKeyId_error failed
                · cases failed; exact ⟨_, rfl⟩
              · cases failed; exact ⟨_, rfl⟩

/-- A header that was read and checked is without fault. -/
theorem header_faultless {token : BearerToken} (checked : self.checkToken (some c) = .ok token) :
    (∀ e, self.jwt.getUnverifiedHeader c.credentials ≠ .error (.python e)) ∧
      ∀ header, self.jwt.getUnverifiedHeader c.credentials = .ok header →
        isAccessTokenType (Members.get header "typ") ≠ .error .typeError := by
  obtain ⟨c', header, given, -, same, read, passes⟩ := checkToken_ok checked
  cases given
  obtain ⟨typ, -, isTyp⟩ := passes.accessToken
  rw [same, read]
  refine ⟨nofun, ?_⟩
  rintro header' h
  cases h
  rw [isTyp]
  nofun

section Quiet

variable (quiet : (self.observed es).failures = [])
include quiet

theorem failure_eq_none {event : Event (AuthenticatorEffects κ)} (mem : event ∈ es) :
    self.failure event = none := List.filterMap_eq_nil_iff.mp quiet event mem

/-- In a run without a failed exchange no exchange is at fault, and the documents that
cannot be used are key documents without keys. -/
theorem exchange_of_quiet {request : ProviderRequest} {number : ℕ} {answer : ProviderAnswer}
    (mem : ⟨.receive request number, answer⟩ ∈ es) :
    KeptApart self.recursionLimit answer ∧ (self.Yields request.endpoint answer ∨
      ∃ d ∈ (self.observed es).documents, ¬ HasKeys d.2) := by
  rcases self.receive_cases mem with ⟨e, failed, -⟩ | ⟨-, apart, yields⟩
  · rw [failure_eq_none quiet mem] at failed
    cases failed
  · exact ⟨apart, yields⟩

theorem yields_of_quiet (keys : ∀ d ∈ (self.observed es).documents, HasKeys d.2)
    {request : ProviderRequest} {number : ℕ} {answer : ProviderAnswer}
    (mem : ⟨.receive request number, answer⟩ ∈ es) : self.Yields request.endpoint answer := by
  rcases (exchange_of_quiet quiet mem).2 with yields | ⟨d, mem, none⟩
  · exact yields
  · exact absurd (keys d mem) none

theorem issuer_of_quiet {now : Monotonic} {cached : Cached OidcMetadata}
    (mem : ⟨.loadMetadata now, cached⟩ ∈ es) (empty : cached.fresh now = none) :
    metadataUrl self.config.issuer ≠ none := by
  intro underived
  have := failure_eq_none quiet mem
  simp [failure, empty, underived] at this

end Quiet

theorem not_decode_of_observed (seen : (self.observed es).decodings = [])
    (request : DecodeRequest κ) (answer : Except JwtError Members) :
    ⟨.decode request, answer⟩ ∉ es := by
  intro mem
  have : (request, answer) ∈ (self.observed es).decodings := List.mem_filterMap.mpr ⟨_, mem, rfl⟩
  rw [seen] at this
  cases this

theorem decode_of_observed {decodings : List (DecodeRequest κ × Except JwtError Members)}
    (seen : (self.observed es).decodings = decodings) {request : DecodeRequest κ}
    {answer : Except JwtError Members} (mem : ⟨.decode request, answer⟩ ∈ es) :
    (request, answer) ∈ decodings :=
  seen ▸ List.mem_filterMap.mpr ⟨_, mem, rfl⟩

/-- Without a failed exchange it is the library's answers that count. -/
theorem faultless_of_quiet {token : BearerToken} (quiet : (self.observed es).failures = [])
    (checked : self.checkToken (some c) = .ok token)
    (keys : ∀ jwks jwk, self.Obtained es jwks → Builds token jwks jwk →
      (∀ e, self.jwt.fromDict jwk token.alg ≠ .error (.python e)) ∧
        (self.jwt.fromDict jwk token.alg = .error .pyJwtError →
          ∃ jwks', self.Obtained es jwks' ∧ ¬ KeysWellFormed self.jwt jwks'))
    (decode : ∀ request e, ⟨.decode request, .error (.python e)⟩ ∉ es) :
    self.Faultless c es where
  header := (header_faultless checked).1
  hashable := (header_faultless checked).2
  issuer _ _ mem empty := issuer_of_quiet quiet mem empty
  exchanges _ _ _ mem := (exchange_of_quiet quiet mem).1
  keys token' jwks jwk checked' obtained builds := by
    rw [checked] at checked'
    cases checked'
    exact keys jwks jwk obtained builds
  decode := decode

/-- Without a failed exchange, and with keys in every document, only the kind of the error
counts. -/
theorem classified_of_quiet (quiet : (self.observed es).failures = [])
    (keys : ∀ d ∈ (self.observed es).documents, HasKeys d.2)
    (token : ∀ e, r = .error e → IsTokenFault e) : self.Classified es r where
  known e h := .inl (token e h)
  provider _ _ _ mem fails := absurd (yields_of_quiet quiet keys mem) fails
  token _ _ := token

/-- An error of the language is none of the known ones. -/
theorem not_classified_python (e : BuiltinError) : ¬ self.Classified es (.error (.python e)) := by
  intro classified
  rcases classified.known _ rfl with fault | fault
  · exact not_isTokenFault_python e fault
  · exact not_isProviderFault_python e fault

theorem classified_iff_of_refused {e : AppError} (bearer : lower c.scheme = Str.lit "bearer")
    (failed : self.checkToken (some c) = .error e) (seen : self.observed es = .nothing) :
    self.Classified es (.error e) ↔ self.Faultless c es := by
  have quiet : (self.observed es).failures = [] := by rw [seen]; rfl
  have none : ∀ d ∈ (self.observed es).documents, HasKeys d.2 := by
    rw [seen]
    exact fun d mem => absurd mem List.not_mem_nil
  have undecoded : ∀ request e, ⟨.decode request, .error (.python e)⟩ ∉ es := fun request e =>
    not_decode_of_observed (by rw [seen]; rfl) request _
  rcases checkToken_error bearer failed with fault | ⟨e', rfl, raises⟩
  · refine iff_of_true (classified_of_quiet quiet none fun e' h => ?_) ?_
    · cases h
      exact fault
    · have checks : ∀ e', e ≠ .python e' := by
        rintro e' rfl
        exact not_isTokenFault_python e' fault
      refine ⟨?_, ?_, fun _ _ mem => issuer_of_quiet quiet mem,
        fun _ _ _ mem => (exchange_of_quiet quiet mem).1, ?_, undecoded⟩
      · intro e' raised
        simp only [checkToken, bearer, ne_eq, not_true_eq_false, if_false, raised] at failed
        exact checks e' (Except.error.inj failed).symm
      · intro header read unhashable
        simp only [checkToken, bearer, ne_eq, not_true_eq_false, if_false, read, checkHeader,
          unhashable] at failed
        exact checks .typeError (Except.error.inj failed).symm
      · intro token _ _ checked
        rw [failed] at checked
        cases checked
  · refine iff_of_false (not_classified_python e') fun faultless => ?_
    rcases raises with raised | ⟨header, read, unhashable⟩
    · exact faultless.header e' raised
    · exact faultless.hashable header read unhashable

theorem not_builds_of_misses {token : BearerToken} {documents : List (Source × Members)}
    (missed : self.Misses token documents) (seen : (self.observed es).documents = documents)
    {jwks jwk : Members} (obtained : self.Obtained es jwks) : ¬ Builds token jwks jwk := by
  obtain ⟨source, mem⟩ := keyDocument_of_obtained obtained
  rw [seen] at mem
  exact (missed_spec (missed _ mem)).2 jwk

/-- What fails is an exchange, or the issuer has no location. -/
theorem failure_cases {event : Event (AuthenticatorEffects κ)} (mem : event ∈ es) {e : AppError}
    (failed : self.failure event = some e) :
    (e = .python .valueError ∧ ∃ now cached, ⟨.loadMetadata now, cached⟩ ∈ es ∧
        Cached.fresh cached now = none ∧ metadataUrl self.config.issuer = none) ∨
      ∃ request number answer, ⟨.receive request number, answer⟩ ∈ es ∧
        ¬ self.Yields request.endpoint answer ∧
        (IsProviderFault e ↔ KeptApart self.recursionLimit answer) := by
  obtain ⟨call, answer⟩ := event
  cases call with
  | loadMetadata now =>
      simp only [failure, Bool.and_eq_true, Option.isNone_iff_eq_none] at failed
      split_ifs at failed with without
      cases failed
      exact .inl ⟨rfl, now, answer, mem, without⟩
  | receive request number =>
      rcases self.receive_cases mem with ⟨e', failed', fails, fault⟩ | ⟨none, -⟩
      · rw [failed] at failed'
        cases failed'
        exact .inr ⟨request, number, answer, mem, fails, fault⟩
      · rw [failed] at none
        cases none
  | monotonic | storeMetadata | loadJwks | storeJwks | send | decode => cases failed

theorem classified_iff_of_cutOff {token : BearerToken} {documents : List (Source × Members)}
    {e : AppError} (checked : self.checkToken (some c) = .ok token)
    (missed : self.Misses token documents) (seen : self.observed es = ⟨documents, [e], []⟩) :
    self.Classified es (.error e) ↔ self.Faultless c es := by
  -- only one event of the run failed
  have only : ∀ event ∈ es, ∀ e', self.failure event = some e' → e' = e := by
    intro event mem e' failed
    have : e' ∈ (self.observed es).failures := List.mem_filterMap.mpr ⟨event, mem, failed⟩
    rw [seen] at this
    exact List.mem_singleton.mp this
  have undecoded : ∀ request e, ⟨.decode request, .error (.python e)⟩ ∉ es := fun request e =>
    not_decode_of_observed (by rw [seen]) request _
  obtain ⟨event, mem, failed⟩ : ∃ event ∈ es, self.failure event = some e := by
    have : e ∈ (self.observed es).failures := by
      rw [seen]
      exact List.mem_singleton_self e
    exact List.mem_filterMap.mp this
  have failing := failure_cases mem failed
  constructor
  · intro classified
    -- whatever failed, the error is one of the provider
    have fault : IsProviderFault e := by
      rcases failing with ⟨rfl, -⟩ | ⟨request, number, answer, mem, fails, -⟩
      · rcases classified.known _ rfl with fault | fault
        · exact absurd fault (not_isTokenFault_python _)
        · exact fault
      · obtain ⟨e', eq, fault⟩ := classified.provider request number answer mem fails
        cases eq
        exact fault
    refine ⟨(header_faultless checked).1, (header_faultless checked).2, ?_, ?_, ?_, undecoded⟩
    · intro now cached mem empty underived
      have failed : self.failure ⟨.loadMetadata now, cached⟩ = some (.python .valueError) := by
        simp [failure, empty, underived]
      rw [← only _ mem _ failed] at fault
      exact not_isProviderFault_python _ fault
    · intro request number answer mem
      rcases self.receive_cases mem with ⟨e', failed', -, fault'⟩ | ⟨-, apart, -⟩
      · rw [only _ mem _ failed'] at fault'
        exact fault'.mp fault
      · exact apart
    · intro token' jwks jwk checked' obtained builds
      rw [checked] at checked'
      cases checked'
      exact absurd builds (not_builds_of_misses missed (by rw [seen]) obtained)
  · intro faultless
    rcases failing with ⟨-, now, cached, mem, empty, underived⟩ |
      ⟨request, number, answer, mem, fails, fault⟩
    · exact absurd underived (faultless.issuer now cached mem empty)
    · have fault := fault.mpr (faultless.exchanges request number answer mem)
      refine ⟨?_, fun _ _ _ _ _ => ⟨e, rfl, fault⟩, ?_⟩
      · intro e' h
        cases h
        exact .inr fault
      · exact fun yields _ => absurd (yields request number answer mem) fails

theorem Builds.unique {token : BearerToken} {jwks jwk jwk' : Members}
    (builds : Builds token jwks jwk) (builds' : Builds token jwks jwk') : jwk' = jwk := by
  obtain ⟨keys, isKeys, -, found, -⟩ := builds
  obtain ⟨keys', isKeys', -, found', -⟩ := builds'
  rw [isKeys] at isKeys'
  cases isKeys'
  rw [found] at found'
  exact (Option.some.inj found').symm

theorem Builds.hasKeys {token : BearerToken} {jwks jwk : Members}
    (builds : Builds token jwks jwk) : HasKeys jwks := by
  obtain ⟨keys, isKeys, -, found, -⟩ := builds
  refine ⟨keys, isKeys, ?_⟩
  rintro rfl
  cases found

section LastDocument

variable {token : BearerToken} {documents : List (Source × Members)} {source : Source}
  {jwks : Members} (missed : self.Misses token documents)
  (looked : (self.observed es).documents = documents ++ [(source, jwks)])
include looked

theorem obtained_last : self.Obtained es jwks := by
  have mem : (source, jwks) ∈ (self.observed es).documents := by
    rw [looked]
    exact List.mem_append_right _ (List.mem_singleton_self _)
  exact obtained_of_keyDocument mem

include missed

/-- Only the last document can have an entry the library is asked for. -/
theorem last_of_builds {jwks' jwk : Members} (obtained : self.Obtained es jwks')
    (builds : Builds token jwks' jwk) : jwks' = jwks := by
  obtain ⟨source', mem⟩ := keyDocument_of_obtained obtained
  rw [looked] at mem
  rcases List.mem_append.mp mem with mem | mem
  · exact absurd builds ((missed_spec (missed _ mem)).2 jwk)
  · exact congrArg Prod.snd (List.mem_singleton.mp mem)

/-- Where the last document has keys, every document has. -/
theorem hasKeys_of_last (last : HasKeys jwks) :
    ∀ d ∈ (self.observed es).documents, HasKeys d.2 := by
  rw [looked]
  intro d mem
  rcases List.mem_append.mp mem with mem | mem
  · exact (missed_spec (missed _ mem)).1
  · rw [List.mem_singleton.mp mem]
    exact last

variable (quiet : (self.observed es).failures = [])
  (checked : self.checkToken (some c) = .ok token)
  (undecoded : ∀ request e, ⟨.decode request, .error (.python e)⟩ ∉ es)
include quiet checked undecoded

/-- A last document from which no key is asked for is without fault. -/
theorem faultless_of_noEntry (noEntry : ¬ ∃ jwk, Builds token jwks jwk) :
    self.Faultless c es := by
  refine faultless_of_quiet quiet checked (fun jwks' jwk obtained builds => ?_) undecoded
  obtain rfl := last_of_builds missed looked obtained builds
  exact absurd ⟨jwk, builds⟩ noEntry

/-- The last document has no keys: the fault is the provider's. -/
theorem classified_iff_of_noKeys {e : AppError} (noKeys : ¬ HasKeys jwks)
    (fault : IsProviderFault e) : self.Classified es (.error e) ↔ self.Faultless c es := by
  refine iff_of_true ⟨?_, fun _ _ _ _ _ => ⟨e, rfl, fault⟩, ?_⟩ ?_
  · rintro e' h
    cases h
    exact .inr fault
  · exact fun _ usable => absurd (usable jwks (obtained_last looked)).1 noKeys
  · refine faultless_of_noEntry missed looked quiet checked undecoded ?_
    rintro ⟨jwk, builds⟩
    exact noKeys builds.hasKeys

/-- The last document has an entry that makes no key. It counts as the provider's fault,
and it is one when a document of the run is malformed. -/
theorem classified_iff_of_unbuilt {jwk : Members} {message : String}
    (builds : Builds token jwks jwk)
    (unbuilt : self.jwt.fromDict jwk token.alg = .error .pyJwtError) :
    self.Classified es (.error (.managementIdentityProviderUnavailable message)) ↔
      self.Faultless c es := by
  have keys := hasKeys_of_last missed looked builds.hasKeys
  -- nothing else in the run can be at fault than the entry that makes no key
  have faultless_iff : self.Faultless c es ↔
      ∃ jwks', self.Obtained es jwks' ∧ ¬ KeysWellFormed self.jwt jwks' := by
    constructor
    · intro faultless
      exact (faultless.keys token jwks jwk checked (obtained_last looked) builds).2 unbuilt
    · intro malformed
      refine faultless_of_quiet quiet checked (fun jwks' jwk' obtained' builds' => ?_) undecoded
      obtain rfl := last_of_builds missed looked obtained' builds'
      rw [builds.unique builds', unbuilt]
      exact ⟨nofun, fun _ => malformed⟩
  rw [faultless_iff]
  constructor
  · intro classified
    by_contra wellFormed
    simp only [not_exists, not_and, not_not] at wellFormed
    -- every exchange and every document was usable, so the error had to be the token's
    have usable : ∀ jwks', self.Obtained es jwks' →
        HasKeys jwks' ∧ KeysWellFormed self.jwt jwks' := by
      intro jwks' obtained'
      obtain ⟨source', mem⟩ := keyDocument_of_obtained obtained'
      exact ⟨keys _ mem, wellFormed jwks' obtained'⟩
    obtain ⟨_, h⟩ := classified.token (fun _ _ _ mem => yields_of_quiet quiet keys mem) usable _ rfl
    cases h
  · rintro ⟨jwks', obtained', malformed⟩
    refine ⟨?_, fun _ _ _ _ _ => ⟨_, rfl, _, rfl⟩, ?_⟩
    · rintro e' h
      cases h
      exact .inr ⟨_, rfl⟩
    · exact fun _ usable => absurd (usable jwks' obtained').2 malformed

end LastDocument

theorem classified_iff_of_badKey {token : BearerToken} {documents : List (Source × Members)}
    {source : Source} {jwks : Members} {e : AppError}
    (checked : self.checkToken (some c) = .ok token) (missed : self.Misses token documents)
    (failed : signingKeyOf self.jwt token.kid token.alg jwks = .error e)
    (seen : self.observed es = ⟨documents ++ [(source, jwks)], [], []⟩) :
    self.Classified es (.error e) ↔ self.Faultless c es := by
  have quiet : (self.observed es).failures = [] := by rw [seen]
  have looked : (self.observed es).documents = documents ++ [(source, jwks)] := by rw [seen]
  have undecoded : ∀ request e, ⟨.decode request, .error (.python e)⟩ ∉ es := fun request e =>
    not_decode_of_observed (by rw [seen]) request _
  rcases self.signingKeyOf_cases token jwks with
    ⟨noKeys, e', failed', fault⟩ | ⟨hasKeys, ⟨jwk, builds⟩ | ⟨noEntry, ends⟩⟩
  · rw [failed] at failed'
    cases failed'
    exact classified_iff_of_noKeys missed looked quiet checked undecoded noKeys fault
  · -- the library is asked for a key, and does not make one
    rw [signingKeyOf_of_builds builds] at failed
    cases hbuilt : self.jwt.fromDict jwk token.alg with
    | ok key => rw [hbuilt] at failed; cases failed
    | error e' =>
        cases e' with
        | pyJwtError =>
            rw [hbuilt] at failed
            cases failed
            exact classified_iff_of_unbuilt missed looked quiet checked undecoded builds hbuilt
        | python e' =>
            rw [hbuilt] at failed
            cases failed
            refine iff_of_false (not_classified_python e') fun faultless => ?_
            exact (faultless.keys token jwks jwk checked (obtained_last looked) builds).1 e' hbuilt
  · -- the document is refused for the token's sake
    have fault : IsTokenFault e := by
      rcases ends with none | ⟨e', failed', fault⟩
      · rw [failed] at none
        cases none
      · rw [failed] at failed'
        cases failed'
        exact fault
    refine iff_of_true (classified_of_quiet quiet (hasKeys_of_last missed looked hasKeys) ?_)
      (faultless_of_noEntry missed looked quiet checked undecoded noEntry)
    rintro e' h
    cases h
    exact fault

theorem classified_iff_of_unknownKey {token : BearerToken} {documents : List (Source × Members)}
    {message : String} (checked : self.checkToken (some c) = .ok token)
    (missed : self.Misses token documents) (seen : self.observed es = ⟨documents, [], []⟩) :
    self.Classified es (.error (.invalidManagementToken message)) ↔ self.Faultless c es := by
  have quiet : (self.observed es).failures = [] := by rw [seen]
  refine iff_of_true (classified_of_quiet quiet ?_ ?_) (faultless_of_quiet quiet checked ?_ ?_)
  · rw [seen]
    exact fun d mem => (missed_spec (missed d mem)).1
  · rintro e h
    cases h
    exact ⟨_, rfl⟩
  · exact fun jwks jwk obtained builds =>
      absurd builds (not_builds_of_misses missed (by rw [seen]) obtained)
  · exact fun request e => not_decode_of_observed (by rw [seen]) request _

theorem verifiedPrincipal_error {config : OidcJwtConfig} {answer : Except JwtError Members}
    {e : AppError} (failed : verifiedPrincipal config answer = .error e) :
    IsTokenFault e ∨ ∃ e', answer = .error (.python e') ∧ e = .python e' := by
  cases answer with
  | error e' =>
      cases e' with
      | pyJwtError => cases failed; exact .inl ⟨_, rfl⟩
      | python e' => cases failed; exact .inr ⟨e', rfl, rfl⟩
  | ok claims =>
      refine .inl ?_
      have claim : ∀ {name message}, requireClaim claims name message = .error e →
          IsTokenFault e := by
        intro name message failed
        rw [requireClaim] at failed
        split at failed
        · split_ifs at failed
          cases failed
          exact ⟨_, rfl⟩
        · cases failed
          exact ⟨_, rfl⟩
      simp only [verifiedPrincipal, principalOfClaims, bind_eq_error] at failed
      rcases failed with failed | ⟨_, -, failed | ⟨_, -, failed | ⟨_, -, failed | ⟨_, -, failed⟩⟩⟩⟩
      · exact claim failed
      · exact claim failed
      · exact claim failed
      · rw [parseScopeClaim.eq_def] at failed
        split at failed
        · cases failed
        · cases failed
          exact ⟨_, rfl⟩
      · cases failed

theorem classified_iff_of_decoded {token : BearerToken} {documents : List (Source × Members)}
    {source : Source} {jwks : Members} {key : κ} {request : DecodeRequest κ}
    {answer : Except JwtError Members} (checked : self.checkToken (some c) = .ok token)
    (missed : self.Misses token documents)
    (found : signingKeyOf self.jwt token.kid token.alg jwks = .ok (some key))
    (seen : self.observed es = ⟨documents ++ [(source, jwks)], [], [(request, answer)]⟩) :
    self.Classified es (verifiedPrincipal self.config answer) ↔ self.Faultless c es := by
  have quiet : (self.observed es).failures = [] := by rw [seen]
  have hasKeys : HasKeys jwks := by
    rcases self.signingKeyOf_cases token jwks with ⟨-, e, failed, -⟩ | ⟨keys, -⟩
    · rw [found] at failed
      cases failed
    · exact keys
  have looked : (self.observed es).documents = documents ++ [(source, jwks)] := by rw [seen]
  have keys := hasKeys_of_last missed looked hasKeys
  have decodes : ⟨.decode request, answer⟩ ∈ es := by
    have : (request, answer) ∈ (self.observed es).decodings := by
      rw [seen]
      exact List.mem_singleton_self _
    obtain ⟨⟨call, reply⟩, mem, decoding⟩ := List.mem_filterMap.mp this
    cases call with
    | decode request => cases decoding; exact mem
    | monotonic | loadMetadata | storeMetadata | loadJwks | storeJwks | send | receive =>
        cases decoding
  -- the library raises an error of the language, or its answer is classified
  by_cases raises : ∃ e, answer = .error (.python e)
  · obtain ⟨e, rfl⟩ := raises
    exact iff_of_false (not_classified_python e) fun faultless =>
      faultless.decode request e decodes
  · refine iff_of_true (classified_of_quiet quiet keys fun e failed => ?_)
      (faultless_of_quiet quiet checked (fun jwks' jwk' obtained' builds' => ?_)
        fun request' e mem => ?_)
    · rcases verifiedPrincipal_error failed with fault | ⟨e', eq, -⟩
      · exact fault
      · exact absurd ⟨e', eq⟩ raises
    · obtain rfl := last_of_builds missed looked obtained' builds'
      rw [signingKeyOf_of_builds builds'] at found
      cases hbuilt : self.jwt.fromDict jwk' token.alg with
      | ok key' => exact ⟨nofun, nofun⟩
      | error e => rw [hbuilt] at found; cases e <;> cases found
    · have only : (self.observed es).decodings = [(request, answer)] := by rw [seen]
      have decoded := decode_of_observed only mem
      exact raises ⟨e, (congrArg Prod.snd (List.mem_singleton.mp decoded)).symm⟩

/-- The faults of a run are told apart exactly when the run is without fault. -/
theorem classified_iff_faultless (self : OidcJwtManagementAuthenticator κ)
    {c : HTTPAuthorizationCredentials} (bearer : lower c.scheme = Str.lit "bearer")
    {es : List (Event (AuthenticatorEffects κ))} {q : Authentication κ ManagementPrincipal}
    {r : Except AppError ManagementPrincipal} (trace : Trace (self.authenticate (some c)) es q)
    (ended : q.outcome = some r) : self.Classified es r ↔ self.Faultless c es := by
  have ends := ending_of_trace trace ended
  generalize hseen : self.observed es = seen at ends
  cases ends with
  | refused failed => exact classified_iff_of_refused bearer failed hseen
  | cutOff checked missed => exact classified_iff_of_cutOff checked missed hseen
  | badKey checked missed failed => exact classified_iff_of_badKey checked missed failed hseen
  | unknownKey checked missed => exact classified_iff_of_unknownKey checked missed hseen
  | decoded checked missed found => exact classified_iff_of_decoded checked missed found hseen

end OidcJwtManagementAuthenticator

theorem classified_iff_faultless_sample :
    sampleAuthenticator.Classified
        ((sampleAuthenticator.authenticate (some sampleCredentials)).run sampleAnswer).1
        (.ok samplePrincipal) ↔
      sampleAuthenticator.Faultless sampleCredentials
        ((sampleAuthenticator.authenticate (some sampleCredentials)).run sampleAnswer).1 := by
  obtain ⟨q, trace, ended⟩ := Program.trace_run (I := AuthenticatorEffects Members) sampleAnswer
    (sampleAuthenticator.authenticate (some sampleCredentials))
  exact sampleAuthenticator.classified_iff_faultless (by decide) trace
    (ended.trans (by rw [sampleRun_returns]))

/-- Answers of a provider that has no discovery document at its place. -/
def notFoundAnswer : (c : AuthenticatorCall Members) → c.Answer
  | .monotonic => (0 : ℚ)
  | .loadMetadata _ => ⟨none, 0⟩
  | .loadJwks _ => ⟨none, 0⟩
  | .storeMetadata .. | .storeJwks .. => ()
  | .send _ => (0 : ℕ)
  | .receive .. => .ok ⟨404, []⟩
  | .decode _ => .error .pyJwtError

/-- A discovery document that is not found makes the error the token's. -/
theorem notFound_misclassified :
    ¬ sampleAuthenticator.Classified
        ((sampleAuthenticator.authenticate (some sampleCredentials)).run notFoundAnswer).1
        ((sampleAuthenticator.authenticate (some sampleCredentials)).run notFoundAnswer).2 := by
  have outcome : ((sampleAuthenticator.authenticate (some sampleCredentials)).run
      notFoundAnswer).2 = .error (.invalidManagementToken "OIDC discovery rejected") := rfl
  have last : ((sampleAuthenticator.authenticate (some sampleCredentials)).run
      notFoundAnswer).1.getLast? = some ⟨.receive ⟨.discovery,
        Str.lit "https://i/.well-known/openid-configuration"⟩ (0 : ℕ), .ok ⟨404, []⟩⟩ := rfl
  intro classified
  obtain ⟨e, eq, message, fault⟩ := classified.provider _ _ _ (List.mem_of_getLast? last) (by
    rintro ⟨response, payload, h, status, -⟩
    cases h
    cases status)
  rw [outcome, fault] at eq
  cases eq

end WebhookMonitor
