import WebhookMonitor.Effects
import WebhookMonitor.Python.Url

/-!
# The OIDC authenticator

`OidcJwtManagementAuthenticator`: the checks of a bearer token, the choice of the
key that verifies it, and the two documents of the identity provider, each in a
cache of its own.

The authenticator works through calls to the clock, to the fields of its caches,
to the HTTP client and to `jwt.decode`, whose answer depends on the time of day.
A GET is two calls, `send` and `receive`: between them, and nowhere else, the
coroutine is suspended.  Times are exact here; a binary64 sum may be an ulp away.

PyJWT is a library.  What depends on the arguments alone is a parameter, `PyJwt`;
its exceptions are told apart as far as `except PyJWTError` does.

* `checkToken` — everything before a key is looked for;
* `selectKey`, `signingKeyOf` — the loop over a key document;
* `metadataDocument`, `jwksDocument` — the cached documents;
* `authenticate` — the whole.
-/

namespace WebhookMonitor

open Python Interaction

/-! ## Configuration and library -/

/-- `OidcJwtConfig`. -/
structure OidcJwtConfig where
  issuer : Str
  audience : Str
  allowedAlgorithms : List Str

/-- `OidcMetadata`. -/
structure OidcMetadata where
  issuer : Str
  jwksUri : Str
  deriving DecidableEq

/-- `HTTPAuthorizationCredentials`. -/
structure HTTPAuthorizationCredentials where
  scheme : Str
  credentials : Str
  deriving DecidableEq

/-- An exception of PyJWT: one of the library's own, or one it lets through. -/
inductive JwtError where
  | pyJwtError
  | python (error : BuiltinError)
  deriving DecidableEq

/-- `jwt.get_unverified_header(token)` and `jwt.PyJWK.from_dict(jwk, algorithm).key`. -/
structure PyJwt (κ : Type) where
  getUnverifiedHeader : Str → Except JwtError Members
  fromDict : Members → Str → Except JwtError κ

/-- The arguments of `jwt.decode`. -/
structure DecodeRequest (κ : Type) where
  token : Str
  key : κ
  algorithms : List Str
  audience : Str
  issuer : Str
  leeway : ℤ
  require : List Str

/-! ## The interface -/

/-- A reading of `time.monotonic()`. -/
abbrev Monotonic := ℚ

/-- A cached document with its expiry. -/
structure Cached (α : Type) where
  value : Option α
  expiresAt : Monotonic

/-- The cached document, before its expiry. -/
def Cached.fresh {α : Type} (cached : Cached α) (now : Monotonic) : Option α :=
  cached.value.filter fun _ => now < cached.expiresAt

/-- The two documents of the identity provider. -/
inductive Endpoint where
  | discovery
  | jwks
  deriving DecidableEq, Repr

/-- A GET, and which document it asks for. -/
structure ProviderRequest where
  endpoint : Endpoint
  url : Str
  deriving DecidableEq

/-- What the authenticator reads of a response. -/
structure ProviderResponse where
  statusCode : ℤ
  content : Bytes
  deriving DecidableEq

/-- The end of a GET. -/
abbrev ProviderAnswer := Except HttpClientError ProviderResponse

/-- The calls.  A load names the reading of the clock it is compared with. -/
inductive AuthenticatorCall (κ : Type) where
  | monotonic
  | loadMetadata (now : Monotonic)
  | storeMetadata (metadata : OidcMetadata) (expiresAt : Monotonic)
  | loadJwks (now : Monotonic)
  | storeJwks (jwks : Members) (expiresAt : Monotonic)
  | send (request : ProviderRequest)
  | receive (request : ProviderRequest) (number : ℕ)
  | decode (request : DecodeRequest κ)

/-- The answer to each call: `send` numbers the requests. -/
@[reducible] def AuthenticatorCall.Answer {κ : Type} : AuthenticatorCall κ → Type
  | .monotonic => Monotonic
  | .loadMetadata _ => Cached OidcMetadata
  | .loadJwks _ => Cached Members
  | .storeMetadata .. | .storeJwks .. => Unit
  | .send _ => ℕ
  | .receive .. => ProviderAnswer
  | .decode _ => Except JwtError Members

/-- The interface of the authenticator. -/
@[reducible] def AuthenticatorEffects (κ : Type) : Interface :=
  ⟨AuthenticatorCall κ, AuthenticatorCall.Answer⟩

/-- A program of the authenticator. -/
abbrev Authentication (κ α : Type) := Program (AuthenticatorEffects κ) AppError α

/-- `OidcJwtManagementAuthenticator`, as far as it never changes. -/
structure OidcJwtManagementAuthenticator (κ : Type) where
  config : OidcJwtConfig
  cacheTtlSeconds : ℤ
  jwt : PyJwt κ
  recursionLimit : RecursionLimit

variable {κ : Type}

/-- Make a call. -/
def perform (c : AuthenticatorCall κ) : Authentication κ c.Answer :=
  Program.perform (I := AuthenticatorEffects κ) c

/-- `await self._http_client.get(url)`. -/
def httpGet (request : ProviderRequest) : Authentication κ ProviderAnswer := do
  let number ← perform (.send request)
  perform (.receive request number)

/-! ## Tokens -/

def oidcAccessTokenTypes : List Str := [Str.lit "at+jwt", Str.lit "application/at+jwt"]

def asymmetricJwtAlgorithmPrefixes : List Str := [Str.lit "RS", Str.lit "PS", Str.lit "ES"]

/-- The test for algorithms that are not asymmetric. -/
def isRefusedAlgorithm (algorithm : Str) : Bool :=
  algorithm = Str.lit "none" || startsWith algorithm "HS" ||
    !asymmetricJwtAlgorithmPrefixes.any fun family => startsWith algorithm family

/-- `typ in OIDC_ACCESS_TOKEN_TYPES`: membership in a set hashes `typ`. -/
def isAccessTokenType : Json → Except BuiltinError Bool
  | .list _ | .dict _ => .error .typeError
  | typ => .ok (oidcAccessTokenTypes.any typ.eqStr)

/-- A token whose header has passed the checks. -/
structure BearerToken where
  token : Str
  alg : Str
  kid : Option Str
  deriving DecidableEq

/-- The key id of a header. -/
def requireKeyId : Json → Except AppError (Option Str)
  | .null => .ok none
  | .str kid => .ok (some kid)
  | _ => .error (.invalidManagementToken "Invalid key id")

/-- The checks of an unverified header. -/
def checkHeader (config : OidcJwtConfig) (token : Str) (header : Members) :
    Except AppError BearerToken :=
  match isAccessTokenType (Members.get header "typ") with
  | .error e => .error (.python e)
  | .ok false => .error (.invalidManagementToken "Wrong token type")
  | .ok true =>
      match Members.get header "alg" with
      | .str alg =>
          if alg ∉ config.allowedAlgorithms then
            .error (.invalidManagementToken "Unsupported algorithm")
          else if isRefusedAlgorithm alg then
            .error (.invalidManagementToken "Unsupported algorithm")
          else (requireKeyId (Members.get header "kid")).map fun kid => ⟨token, alg, kid⟩
      | _ => .error (.invalidManagementToken "Unsupported algorithm")

namespace OidcJwtManagementAuthenticator

variable (self : OidcJwtManagementAuthenticator κ)

/-- `authenticate` up to its first lookup of a key. -/
def checkToken (credentials : Option HTTPAuthorizationCredentials) : Except AppError BearerToken :=
  match credentials with
  | none => .error (.invalidManagementToken "Missing bearer token")
  | some credentials =>
      if lower credentials.scheme ≠ Str.lit "bearer" then
        .error (.invalidManagementToken "Missing bearer token")
      else
        match self.jwt.getUnverifiedHeader credentials.credentials with
        | .error .pyJwtError => .error (.invalidManagementToken "Malformed JWT")
        | .error (.python e) => .error (.python e)
        | .ok header => checkHeader self.config credentials.credentials header

end OidcJwtManagementAuthenticator

/-! ## Keys -/

/-- The loop of `_signing_key_for` over the entries of a key document. -/
def selectKey (jwt : PyJwt κ) (kid : Option Str) (alg : Str) :
    List Json → Except AppError (Option κ)
  | [] => .ok none
  | .dict jwk :: rest =>
      if kid.any fun kid => !(Members.get jwk "kid").eqStr kid then selectKey jwt kid alg rest
      else if (Members.get jwk "kty").eqStr "oct" then
        .error (.invalidManagementToken "Unsupported symmetric key")
      else if !(Members.get jwk "alg").isNone && !(Members.get jwk "alg").eqStr alg then
        selectKey jwt kid alg rest
      else
        match jwt.fromDict jwk alg with
        | .ok key => .ok (some key)
        | .error .pyJwtError =>
            .error (.managementIdentityProviderUnavailable "JWKS key was invalid")
        | .error (.python e) => .error (.python e)
  | _ :: rest => selectKey jwt kid alg rest

/-- `_signing_key_for`, with the document it reads. -/
def signingKeyOf (jwt : PyJwt κ) (kid : Option Str) (alg : Str) (jwks : Members) :
    Except AppError (Option κ) :=
  match Members.get jwks "keys" with
  | .list keys =>
      if keys = [] then .error (.managementIdentityProviderUnavailable "JWKS was invalid")
      else if kid = none ∧ keys.length ≠ 1 then .error (.invalidManagementToken "Missing key id")
      else selectKey jwt kid alg keys
  | _ => .error (.managementIdentityProviderUnavailable "JWKS was invalid")

/-! ## Documents -/

/-- The JSON object a GET yields, up to `isinstance(payload, dict)`.  The two callers
differ in the document their messages name. -/
def providerDocument (limit : RecursionLimit) (name : String) :
    ProviderAnswer → Except AppError Members
  | .error e =>
      if e.isRequestError then
        .error (.managementIdentityProviderUnavailable (name ++ " unavailable"))
      else .error .httpClient
  | .ok response =>
      if response.statusCode ≥ 500 ∨ response.statusCode = 429 then
        .error (.managementIdentityProviderUnavailable (name ++ " unavailable"))
      else if response.statusCode ≠ 200 then
        .error (.invalidManagementToken (name ++ " rejected"))
      else
        match loadsBytes limit response.content with
        | .ok (.dict payload) => .ok payload
        | .ok _ => .error (.managementIdentityProviderUnavailable (name ++ " invalid"))
        | .error e =>
            if e.isValueError then
              .error (.managementIdentityProviderUnavailable (name ++ " invalid"))
            else .error (.python e)

/-- The checks of a discovery document. -/
def metadataOfDocument (config : OidcJwtConfig) (payload : Members) :
    Except AppError OidcMetadata :=
  if !(Members.get payload "issuer").eqStr config.issuer then
    .error (.managementIdentityProviderUnavailable "OIDC issuer mismatch")
  else
    match Members.get payload "jwks_uri" with
    | .str jwksUri =>
        if startsWith jwksUri "https://" then .ok ⟨config.issuer, jwksUri⟩
        else .error (.managementIdentityProviderUnavailable "OIDC JWKS URI invalid")
    | _ => .error (.managementIdentityProviderUnavailable "OIDC JWKS URI invalid")

/-- The location of the discovery document; `none` is `ValueError`. -/
def metadataUrl (issuer : Str) : Option Str :=
  urljoin (issuer.rdropWhile (· = CodePoint.ofChar '/') ++ Str.lit "/")
    ".well-known/openid-configuration"

/-! ## Claims -/

/-- `claims.get(name)` as a string that is not blank. -/
def requireClaim (claims : Members) (name : Str) (message : String) : Except AppError Str :=
  match Members.get claims name with
  | .str value =>
      if strip value = [] then .error (.invalidManagementToken message) else .ok value
  | _ => .error (.invalidManagementToken message)

def parseScopeClaim : Json → Except AppError (Finset Str)
  | .str value => .ok (words value).toFinset
  | _ => .error (.invalidManagementToken "Invalid scope")

/-- What `authenticate` makes of the claims of a token. -/
def principalOfClaims (config : OidcJwtConfig) (claims : Members) :
    Except AppError ManagementPrincipal := do
  let subject ← requireClaim claims "sub" "Missing subject"
  let clientId ← requireClaim claims "client_id" "Missing client id"
  let _ ← requireClaim claims "jti" "Missing JWT id"
  let scopes ← parseScopeClaim (Members.get claims "scope")
  return { authenticationMethod := .oidcJwt, issuer := some config.issuer,
           subject := some subject, clientId := some clientId, scopes }

/-- What `authenticate` makes of the answer of `jwt.decode`. -/
def verifiedPrincipal (config : OidcJwtConfig) :
    Except JwtError Members → Except AppError ManagementPrincipal
  | .error .pyJwtError => .error (.invalidManagementToken "Invalid JWT")
  | .error (.python e) => .error (.python e)
  | .ok claims => principalOfClaims config claims

def clockSkewSeconds : ℤ := 60

def requiredClaims : List Str :=
  [Str.lit "iss", Str.lit "sub", Str.lit "aud", Str.lit "exp", Str.lit "iat", Str.lit "client_id",
    Str.lit "jti"]

/-- The arguments `authenticate` calls `jwt.decode` with. -/
def OidcJwtConfig.decodeRequest (config : OidcJwtConfig) (token : Str) (key : κ) :
    DecodeRequest κ where
  token
  key
  algorithms := config.allowedAlgorithms
  audience := config.audience
  issuer := config.issuer
  leeway := clockSkewSeconds
  require := requiredClaims

/-! ## The methods -/

namespace OidcJwtManagementAuthenticator

variable (self : OidcJwtManagementAuthenticator κ)

/-- What `_metadata_document` makes of the answer to its GET. -/
def metadataOfAnswer (answer : ProviderAnswer) : Except AppError OidcMetadata := do
  let payload ← providerDocument self.recursionLimit "OIDC discovery" answer
  metadataOfDocument self.config payload

/-- What `_jwks_document` makes of the answer to its GET. -/
def jwksOfAnswer (answer : ProviderAnswer) : Except AppError Members :=
  providerDocument self.recursionLimit "OIDC JWKS" answer

/-- The part of `_metadata_document` after its cache. -/
def fetchMetadata (now : Monotonic) : Authentication κ OidcMetadata := do
  let url ← Program.ofExcept (uncaught (orRaise .valueError (metadataUrl self.config.issuer)))
  let answer ← httpGet ⟨.discovery, url⟩
  let metadata ← Program.ofExcept (self.metadataOfAnswer answer)
  perform (.storeMetadata metadata (now + self.cacheTtlSeconds))
  return metadata

def metadataDocument : Authentication κ OidcMetadata := do
  let now ← perform .monotonic
  let cached ← perform (.loadMetadata now)
  match cached.fresh now with
  | some metadata => return metadata
  | none => self.fetchMetadata now

/-- The part of `_jwks_document` after its cache. -/
def fetchJwks (now : Monotonic) : Authentication κ Members := do
  let metadata ← self.metadataDocument
  let answer ← httpGet ⟨.jwks, metadata.jwksUri⟩
  let payload ← Program.ofExcept (self.jwksOfAnswer answer)
  perform (.storeJwks payload (now + self.cacheTtlSeconds))
  return payload

def jwksDocument (refresh : Bool) : Authentication κ Members := do
  let now ← perform .monotonic
  if refresh then self.fetchJwks now
  else
    let cached ← perform (.loadJwks now)
    match cached.fresh now with
    | some jwks => return jwks
    | none => self.fetchJwks now

def signingKeyFor (kid : Option Str) (alg : Str) (refresh : Bool) :
    Authentication κ (Option κ) := do
  let jwks ← self.jwksDocument refresh
  Program.ofExcept (signingKeyOf self.jwt kid alg jwks)

/-- The end of `authenticate`, with the key that was found. -/
def verify (token : BearerToken) (key : Option κ) : Authentication κ ManagementPrincipal :=
  match key with
  | none => throw (.invalidManagementToken "Unknown signing key")
  | some key => do
      let answer ← perform (.decode (self.config.decodeRequest token.token key))
      Program.ofExcept (verifiedPrincipal self.config answer)

/-- `authenticate` after the checks of the header. -/
def authenticateToken (token : BearerToken) : Authentication κ ManagementPrincipal := do
  let key ← self.signingKeyFor token.kid token.alg false
  if key.isNone && token.kid.isSome then
    let key ← self.signingKeyFor token.kid token.alg true
    self.verify token key
  else self.verify token key

def authenticate (credentials : Option HTTPAuthorizationCredentials) :
    Authentication κ ManagementPrincipal := do
  let token ← Program.ofExcept (self.checkToken credentials)
  self.authenticateToken token

/-! ### Their calls -/

theorem metadataDocument_eq :
    self.metadataDocument =
      .call AuthenticatorCall.monotonic fun now =>
        .call (AuthenticatorCall.loadMetadata now) fun cached =>
          match cached.fresh now with
          | some metadata => .ret metadata
          | none => self.fetchMetadata now := rfl

theorem fetchMetadata_eq {now : Monotonic} {url : Str}
    (derived : metadataUrl self.config.issuer = some url) :
    self.fetchMetadata now =
      .call (AuthenticatorCall.send ⟨.discovery, url⟩) fun number =>
        .call (AuthenticatorCall.receive ⟨.discovery, url⟩ number) fun answer =>
          match self.metadataOfAnswer answer with
          | .ok metadata =>
              .call (AuthenticatorCall.storeMetadata metadata (now + self.cacheTtlSeconds)) fun _ =>
                .ret metadata
          | .error e => .raise e := by
  rw [fetchMetadata, derived]
  change Program.call _ _ = _
  congr 1
  funext number
  change Program.call _ _ = _
  congr 1
  funext answer
  change Program.ofExcept (self.metadataOfAnswer answer) >>= _ = _
  cases self.metadataOfAnswer answer <;> rfl

theorem fetchMetadata_of_none {now : Monotonic}
    (underived : metadataUrl self.config.issuer = none) :
    self.fetchMetadata now = .raise (.python .valueError) := by
  rw [fetchMetadata, underived]
  rfl

theorem jwksDocument_eq (refresh : Bool) :
    self.jwksDocument refresh =
      .call AuthenticatorCall.monotonic fun now =>
        if refresh then self.fetchJwks now
        else
          .call (AuthenticatorCall.loadJwks now) fun cached =>
            match cached.fresh now with
            | some jwks => .ret jwks
            | none => self.fetchJwks now := rfl

/-- `fetchJwks` after it has the discovery document. -/
def requestJwks (now : Monotonic) (metadata : OidcMetadata) : Authentication κ Members :=
  .call (AuthenticatorCall.send ⟨.jwks, metadata.jwksUri⟩) fun number =>
    .call (AuthenticatorCall.receive ⟨.jwks, metadata.jwksUri⟩ number) fun answer =>
      match self.jwksOfAnswer answer with
      | .ok jwks =>
          .call (AuthenticatorCall.storeJwks jwks (now + self.cacheTtlSeconds)) fun _ => .ret jwks
      | .error e => .raise e

theorem fetchJwks_eq (now : Monotonic) :
    self.fetchJwks now = self.metadataDocument >>= self.requestJwks now := by
  rw [fetchJwks]
  congr 1
  funext metadata
  change Program.call _ _ = Program.call _ _
  congr 1
  funext number
  change Program.call _ _ = Program.call _ _
  congr 1
  funext answer
  change Program.ofExcept (self.jwksOfAnswer answer) >>= _ = _
  cases self.jwksOfAnswer answer <;> rfl

theorem verify_some (token : BearerToken) (key : κ) :
    self.verify token (some key) =
      .call (AuthenticatorCall.decode (self.config.decodeRequest token.token key)) fun answer =>
        Program.ofExcept (verifiedPrincipal self.config answer) := rfl

end OidcJwtManagementAuthenticator

end WebhookMonitor
