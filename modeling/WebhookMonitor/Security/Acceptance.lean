import WebhookMonitor.Security.Endings

/-!
# What an accepted token has passed

Whatever the clock, the caches and the provider answer, a call of `authenticate`
that returns a principal has checked the token's header, has built the
verification key from an entry of a key document that fits the token, and has had
`jwt.decode` accept the token under that key; the principal is made of the claims.

* `checkToken_ok`, `signingKeyOf_some`, `principalOfClaims_ok` — what each check
  that passes says;
* `Accepted` — all of it, for one run;
* `accepted_of_principal` — for every run.
-/

namespace WebhookMonitor

open Python Interaction

variable {κ : Type}

/-! ## The header -/

/-- The algorithm belongs to an asymmetric family. -/
structure IsAsymmetric (algorithm : Str) : Prop where
  not_none : algorithm ≠ Str.lit "none"
  not_hmac : ¬ Str.lit "HS" <+: algorithm
  family : Str.lit "RS" <+: algorithm ∨ Str.lit "PS" <+: algorithm ∨ Str.lit "ES" <+: algorithm

theorem isRefusedAlgorithm_eq_false {algorithm : Str} :
    isRefusedAlgorithm algorithm = false ↔ IsAsymmetric algorithm := by
  constructor
  · intro h
    simp only [isRefusedAlgorithm, asymmetricJwtAlgorithmPrefixes, startsWith, List.any_cons,
      List.any_nil, Bool.or_false, Bool.or_eq_false_iff, Bool.not_eq_false', Bool.or_eq_true,
      decide_eq_false_iff_not, List.isPrefixOf_iff_prefix] at h
    exact ⟨h.1.1, fun hmac => by simp [List.isPrefixOf_iff_prefix.mpr hmac] at h, h.2⟩
  · intro h
    have hmac : (Str.lit "HS").isPrefixOf algorithm = false := by
      rw [Bool.eq_false_iff]
      exact fun isPrefix => h.not_hmac (List.isPrefixOf_iff_prefix.mp isPrefix)
    simp only [isRefusedAlgorithm, asymmetricJwtAlgorithmPrefixes, startsWith, List.any_cons,
      List.any_nil, Bool.or_false, Bool.or_eq_false_iff, Bool.not_eq_false', Bool.or_eq_true,
      decide_eq_false_iff_not, List.isPrefixOf_iff_prefix]
    exact ⟨⟨h.not_none, hmac⟩, h.family⟩

/-- A key id as the header gives it. -/
def kidJson : Option Str → Json
  | none => .null
  | some kid => .str kid

/-- A header that passes the checks. -/
structure HeaderPasses (config : OidcJwtConfig) (header : Members) (alg : Str)
    (kid : Option Str) : Prop where
  accessToken : ∃ typ ∈ oidcAccessTokenTypes, Members.get header "typ" = .str typ
  algorithm : Members.get header "alg" = .str alg
  allowed : alg ∈ config.allowedAlgorithms
  asymmetric : IsAsymmetric alg
  keyId : Members.get header "kid" = kidJson kid

theorem isAccessTokenType_true {typ : Json} (h : isAccessTokenType typ = .ok true) :
    ∃ t ∈ oidcAccessTokenTypes, typ = .str t := by
  have any : oidcAccessTokenTypes.any typ.eqStr = true := by
    cases typ with
    | list | dict => cases h
    | null | bool | int | float | str => exact Except.ok.inj h
  obtain ⟨t, mem, eq⟩ := List.any_eq_true.mp any
  exact ⟨t, mem, Json.eqStr_iff.mp eq⟩

theorem requireKeyId_ok {value : Json} {kid : Option Str} (h : requireKeyId value = .ok kid) :
    value = kidJson kid := by
  cases value with
  | null | str => cases h; rfl
  | bool | int | float | list | dict => cases h

theorem checkHeader_ok {config : OidcJwtConfig} {text : Str} {header : Members}
    {token : BearerToken} (h : checkHeader config text header = .ok token) :
    token.token = text ∧ HeaderPasses config header token.alg token.kid := by
  rw [checkHeader] at h
  cases htyp : isAccessTokenType (Members.get header "typ") with
  | error e => rw [htyp] at h; cases h
  | ok accessToken =>
      cases accessToken with
      | false => rw [htyp] at h; cases h
      | true =>
          rw [htyp] at h
          cases halg : Members.get header "alg" with
          | str alg =>
              simp only [halg] at h
              split_ifs at h with allowed refused
              obtain ⟨kid, hkid, rfl⟩ := map_eq_ok.mp h
              exact ⟨rfl, isAccessTokenType_true htyp, halg, allowed,
                isRefusedAlgorithm_eq_false.mp (Bool.eq_false_iff.mpr refused),
                requireKeyId_ok hkid⟩
          | null | bool | int | float | list | dict => simp only [halg] at h; cases h

namespace OidcJwtManagementAuthenticator

variable {self : OidcJwtManagementAuthenticator κ}

theorem checkToken_ok {credentials : Option HTTPAuthorizationCredentials} {token : BearerToken}
    (checked : self.checkToken credentials = .ok token) :
    ∃ c header, credentials = some c ∧ lower c.scheme = Str.lit "bearer" ∧
      c.credentials = token.token ∧ self.jwt.getUnverifiedHeader token.token = .ok header ∧
      HeaderPasses self.config header token.alg token.kid := by
  cases credentials with
  | none => cases checked
  | some c =>
      simp only [checkToken] at checked
      split_ifs at checked with scheme
      cases hheader : self.jwt.getUnverifiedHeader c.credentials with
      | error e => rw [hheader] at checked; cases e <;> cases checked
      | ok header =>
          rw [hheader] at checked
          obtain ⟨same, passes⟩ := checkHeader_ok checked
          exact ⟨c, header, rfl, not_not.mp scheme, same.symm, same ▸ hheader, passes⟩

end OidcJwtManagementAuthenticator

/-! ## The key -/

/-- An entry of a key document is for a token with this key id and algorithm. -/
structure EntryFits (kid : Option Str) (alg : Str) (keys : List Json) (jwk : Members) : Prop where
  entry : Json.dict jwk ∈ keys
  not_symmetric : Members.get jwk "kty" ≠ .str "oct"
  algorithm : Members.get jwk "alg" = .null ∨ Members.get jwk "alg" = .str alg
  named : match kid with
    | some kid => Members.get jwk "kid" = .str kid
    | none => keys.length = 1

theorem signingKeyOf_some {jwt : PyJwt κ} {kid : Option Str} {alg : Str} {jwks : Members} {key : κ}
    (found : signingKeyOf jwt kid alg jwks = .ok (some key)) :
    ∃ keys jwk, Members.get jwks "keys" = .list keys ∧ EntryFits kid alg keys jwk ∧
      jwt.fromDict jwk alg = .ok key := by
  rw [signingKeyOf] at found
  cases hkeys : Members.get jwks "keys" with
  | null | bool | int | float | str | dict => simp only [hkeys] at found; cases found
  | list keys =>
      simp only [hkeys, selectKey_eq] at found
      split_ifs at found with empty single
      cases hentry : entryFor kid alg keys with
      | none => rw [hentry] at found; cases found
      | some jwk =>
          simp only [hentry, buildKey] at found
          split_ifs at found with oct
          obtain ⟨entry, stops⟩ := entryFor_spec hentry
          simp only [Stops, Bool.and_eq_true, Bool.or_eq_true, oct, false_or, Json.isNone_iff,
            Json.eqStr_iff, Bool.false_eq_true] at stops
          refine ⟨keys, jwk, rfl, ⟨entry, fun h => oct (Json.eqStr_iff.mpr h), stops.2, ?_⟩, ?_⟩
          · cases kid with
            | none =>
                by_contra several
                exact single ⟨rfl, several⟩
            | some kid => exact Json.eqStr_iff.mp (by simpa using stops.1)
          · cases hbuilt : jwt.fromDict jwk alg with
            | ok key' => rw [hbuilt] at found; cases found; rfl
            | error e => rw [hbuilt] at found; cases e <;> cases found

/-! ## The claims -/

/-- The claims a principal is made of. -/
structure ClaimsGive (config : OidcJwtConfig) (claims : Members) (principal : ManagementPrincipal) :
    Prop where
  method : principal.authenticationMethod = .oidcJwt
  issuer : principal.issuer = some config.issuer
  subject : ∃ subject, Members.get claims "sub" = .str subject ∧ strip subject ≠ [] ∧
    principal.subject = some subject
  clientId : ∃ clientId, Members.get claims "client_id" = .str clientId ∧ strip clientId ≠ [] ∧
    principal.clientId = some clientId
  jwtId : ∃ jwtId, Members.get claims "jti" = .str jwtId ∧ strip jwtId ≠ []
  scopes : ∃ scope, Members.get claims "scope" = .str scope ∧
    ∀ s, s ∈ principal.scopes ↔ s ∈ words scope

theorem requireClaim_ok {claims : Members} {name value : Str} {message : String}
    (h : requireClaim claims name message = .ok value) :
    Members.get claims name = .str value ∧ strip value ≠ [] := by
  rw [requireClaim] at h
  cases hclaim : Members.get claims name with
  | str s =>
      simp only [hclaim] at h
      split_ifs at h with blank
      cases h
      exact ⟨rfl, blank⟩
  | null | bool | int | float | list | dict => simp only [hclaim] at h; cases h

theorem principalOfClaims_ok {config : OidcJwtConfig} {claims : Members}
    {principal : ManagementPrincipal} (h : principalOfClaims config claims = .ok principal) :
    ClaimsGive config claims principal := by
  simp only [principalOfClaims, bind_eq_ok] at h
  obtain ⟨subject, hsubject, clientId, hclientId, jwtId, hjwtId, scopes, hscopes, h⟩ := h
  cases h
  cases hscope : Members.get claims "scope" with
  | str scope =>
      rw [hscope] at hscopes
      cases hscopes
      obtain ⟨isSubject, subjectGiven⟩ := requireClaim_ok hsubject
      obtain ⟨isClientId, clientIdGiven⟩ := requireClaim_ok hclientId
      exact ⟨rfl, rfl, ⟨subject, isSubject, subjectGiven, rfl⟩,
        ⟨clientId, isClientId, clientIdGiven, rfl⟩, ⟨jwtId, requireClaim_ok hjwtId⟩,
        ⟨scope, hscope, fun s => List.mem_toFinset⟩⟩
  | null | bool | int | float | list | dict => rw [hscope] at hscopes; cases hscopes

/-! ## Acceptance -/

theorem providerDocument_ok {limit : RecursionLimit} {name : String} {answer : ProviderAnswer}
    {payload : Members} : providerDocument limit name answer = .ok payload ↔
      ∃ response, answer = .ok response ∧ response.statusCode = 200 ∧
        loadsBytes limit response.content = .ok (.dict payload) := by
  constructor
  · intro h
    cases answer with
    | error e =>
        simp only [providerDocument] at h
        split_ifs at h
    | ok response =>
        simp only [providerDocument] at h
        split_ifs at h with unavailable rejected
        refine ⟨response, rfl, not_not.mp rejected, ?_⟩
        cases hload : loadsBytes limit response.content with
        | error e => simp only [hload] at h; split_ifs at h
        | ok value =>
            cases value with
            | dict d => simp only [hload] at h; cases h; rfl
            | null | bool | int | float | str | list => simp only [hload] at h; cases h
  · rintro ⟨response, rfl, status, hload⟩
    simp [providerDocument, status, hload]

namespace OidcJwtManagementAuthenticator

variable (self : OidcJwtManagementAuthenticator κ)

/-- The call took the document from the cache before its expiry, or had it as the body of
a 200 response. -/
def Obtained (es : List (Event (AuthenticatorEffects κ))) (jwks : Members) : Prop :=
  (∃ now cached, ⟨.loadJwks now, cached⟩ ∈ es ∧ cached.value = some jwks ∧
    now < cached.expiresAt) ∨
  ∃ url number response, ⟨.receive ⟨.jwks, url⟩ number, .ok response⟩ ∈ es ∧
    response.statusCode = 200 ∧
    loadsBytes self.recursionLimit response.content = .ok (.dict jwks)

/-- What a call that saw `es` and returned `principal` has checked. -/
def Accepted (credentials : Option HTTPAuthorizationCredentials)
    (es : List (Event (AuthenticatorEffects κ))) (principal : ManagementPrincipal) : Prop :=
  ∃ c header alg kid jwks keys jwk key claims,
    credentials = some c ∧ lower c.scheme = Str.lit "bearer" ∧
    self.jwt.getUnverifiedHeader c.credentials = .ok header ∧
    HeaderPasses self.config header alg kid ∧
    self.Obtained es jwks ∧ Members.get jwks "keys" = .list keys ∧ EntryFits kid alg keys jwk ∧
    self.jwt.fromDict jwk alg = .ok key ∧
    ⟨.decode (self.config.decodeRequest c.credentials key), .ok claims⟩ ∈ es ∧
    ClaimsGive self.config claims principal

variable {self}

theorem obtained_of_keyDocument {es : List (Event (AuthenticatorEffects κ))} {source : Source}
    {jwks : Members} (looked : (source, jwks) ∈ (self.observed es).documents) :
    self.Obtained es jwks := by
  obtain ⟨⟨c, answer⟩, mem, document⟩ := List.mem_filterMap.mp looked
  cases c with
  | loadJwks now =>
      obtain ⟨jwks', hfresh, eq⟩ := Option.map_eq_some_iff.mp document
      cases eq
      obtain ⟨hvalue, before⟩ := Option.filter_eq_some_iff.mp hfresh
      exact .inl ⟨now, answer, mem, hvalue, of_decide_eq_true before⟩
  | receive request number =>
      obtain ⟨endpoint, url⟩ := request
      cases endpoint with
      | discovery => cases document
      | jwks =>
          obtain ⟨jwks', hjwks, eq⟩ := Option.map_eq_some_iff.mp document
          cases eq
          have read : self.jwksOfAnswer answer = .ok jwks := by
            cases hread : self.jwksOfAnswer answer with
            | ok d => rw [hread] at hjwks; cases hjwks; rfl
            | error e => rw [hread] at hjwks; cases hjwks
          obtain ⟨response, rfl, status, hload⟩ := providerDocument_ok.mp read
          exact .inr ⟨url, number, response, mem, status, hload⟩
  | monotonic | loadMetadata | storeMetadata | storeJwks | send | decode => cases document

/-- A call that returns a principal has accepted the token. -/
theorem accepted_of_principal (self : OidcJwtManagementAuthenticator κ)
    {credentials : Option HTTPAuthorizationCredentials}
    {es : List (Event (AuthenticatorEffects κ))} {q : Authentication κ ManagementPrincipal}
    {principal : ManagementPrincipal} (trace : Trace (self.authenticate credentials) es q)
    (returned : q.outcome = some (.ok principal)) : self.Accepted credentials es principal := by
  have ends := ending_of_trace trace returned
  generalize hseen : self.observed es = seen at ends
  generalize hr : Except.ok principal = r at ends
  cases ends with
  | refused | cutOff | badKey | unknownKey => cases hr
  | @decoded token documents source jwks key answer checked missed found =>
      obtain ⟨c, header, given, bearer, sameToken, read, passes⟩ := checkToken_ok checked
      obtain ⟨keys, jwk, isKeys, fits, built⟩ := signingKeyOf_some found
      have looked : (source, jwks) ∈ (self.observed es).documents := by
        rw [hseen]
        exact List.mem_append_right _ (List.mem_singleton_self _)
      have decodes : (self.config.decodeRequest token.token key, answer) ∈
          (self.observed es).decodings := by
        rw [hseen]
        exact List.mem_singleton_self _
      cases answer with
      | error e => cases e <;> cases hr
      | ok claims =>
          refine ⟨c, header, token.alg, token.kid, jwks, keys, jwk, key, claims, given, bearer,
            sameToken ▸ read, passes, obtained_of_keyDocument looked, isKeys, fits, built, ?_,
            principalOfClaims_ok hr.symm⟩
          obtain ⟨⟨call, reply⟩, mem, decoding⟩ := List.mem_filterMap.mp decodes
          cases call with
          | decode request => cases decoding; exact sameToken ▸ mem
          | monotonic | loadMetadata | storeMetadata | loadJwks | storeJwks | send | receive =>
              cases decoding

end OidcJwtManagementAuthenticator

/-! ### A run -/

/-- A public key, as the provider publishes it. -/
def sampleJwk : Members :=
  [("kty", .str "EC"), ("crv", .str "P-256"), ("kid", .str "k"),
    ("x", .str "bGsYJS8ljhwmQArkOxbyvT3v__GLL9TONwv8bc8Unwg"),
    ("y", .str "qBCVqO31rl2_0SxLkWeF5vO93b70Ar_Nuj-eB5T2lgU")]

def sampleJwks : Members := [("keys", .list [.dict sampleJwk])]

/-- A token signed with the key. -/
def sampleCredentials : HTTPAuthorizationCredentials where
  scheme := "Bearer"
  credentials := Str.lit <|
    "eyJhbGciOiJFUzI1NiIsImtpZCI6ImsiLCJ0eXAiOiJhdCtqd3QifQ." ++
    "eyJpc3MiOiJodHRwczovL2kiLCJhdWQiOiJhIiwic3ViIjoicyIsImNsaWVudF9pZCI6ImMiLCJqdGkiOiJqIiwi" ++
    "c2NvcGUiOiJyIHciLCJpYXQiOjAsImV4cCI6OTk5OTk5OTk5OX0." ++
    "A7Fj9ww1VGOh577748zov8SdS45F2iCVFevjAEcsWfmUDxMFOCKPz1n1u8_xEx2lnWSgHGcXxitOi4fJcR_yNg"

/-- The header of the token. -/
def sampleHeader : Members :=
  [("alg", .str "ES256"), ("kid", .str "k"), ("typ", .str "at+jwt")]

/-- The claims of the token. -/
def sampleClaims : Members :=
  [("iss", .str "https://i"), ("aud", .str "a"), ("sub", .str "s"), ("client_id", .str "c"),
    ("jti", .str "j"), ("scope", .str "r w"), ("iat", .int 0), ("exp", .int 9999999999)]

/-- An authenticator for the issuer of the token; a key is its entry. -/
def sampleAuthenticator : OidcJwtManagementAuthenticator Members where
  config := { issuer := "https://i", audience := "a", allowedAlgorithms := [Str.lit "ES256"] }
  cacheTtlSeconds := 300
  jwt := { getUnverifiedHeader := fun _ => .ok sampleHeader, fromDict := fun jwk _ => .ok jwk }
  recursionLimit := sampleLimit

/-- Answers to a call that finds the key document in the cache. -/
def sampleAnswer : (c : AuthenticatorCall Members) → c.Answer
  | .monotonic => (0 : ℚ)
  | .loadMetadata _ => ⟨none, 0⟩
  | .loadJwks _ => ⟨some sampleJwks, 300⟩
  | .storeMetadata .. | .storeJwks .. => ()
  | .send _ => (0 : ℕ)
  | .receive .. => .error .connectError
  | .decode _ => .ok sampleClaims

def samplePrincipal : ManagementPrincipal where
  authenticationMethod := .oidcJwt
  issuer := some (Str.lit "https://i")
  subject := some (Str.lit "s")
  clientId := some (Str.lit "c")
  scopes := [Str.lit "r", Str.lit "w"].toFinset

theorem sampleRun_returns :
    ((sampleAuthenticator.authenticate (some sampleCredentials)).run sampleAnswer).2 =
      .ok samplePrincipal := by
  rfl

theorem accepted_of_principal_sample :
    sampleAuthenticator.Accepted (some sampleCredentials)
      ((sampleAuthenticator.authenticate (some sampleCredentials)).run sampleAnswer).1
      samplePrincipal := by
  obtain ⟨q, trace, ended⟩ := Program.trace_run (I := AuthenticatorEffects Members) sampleAnswer
    (sampleAuthenticator.authenticate (some sampleCredentials))
  exact sampleAuthenticator.accepted_of_principal trace (ended.trans (by rw [sampleRun_returns]))

end WebhookMonitor
