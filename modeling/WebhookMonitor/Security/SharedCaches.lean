import WebhookMonitor.Interaction.Schedule
import WebhookMonitor.Security.Acceptance

/-!
# Calls that share one authenticator

Any number of calls of `authenticate` run on one authenticator: they share its two
caches and its HTTP client.  The world keeps every GET with the time it was issued and
the answer it got; the clock never runs backwards, and the provider answers what it
likes, when it likes.  Calls may interleave between any two of their steps, so in
particular where they await an answer.

`Allowed` says of every step of a call what the steps before it in the same call have
been, for a call with any credentials (`authenticate_allowed`).  It names no token: what
a call sends, and what it writes to the caches, comes from the clock, the caches, the
provider and the configured issuer.
-/

namespace WebhookMonitor

open Python Interaction

variable {κ : Type}

/-! ## The world -/

/-- A GET that was issued, and its answer once it has one. -/
structure IssuedRequest where
  request : ProviderRequest
  issuedAt : Monotonic
  answer : Option ProviderAnswer

/-- What the calls on one authenticator share, with the GETs so far and the time of the
last one or of the last reading of the clock. -/
structure AuthenticatorWorld where
  now : Monotonic
  requests : List IssuedRequest
  metadata : Cached OidcMetadata
  jwks : Cached Members

/-- `__init__` leaves both caches empty. -/
def AuthenticatorWorld.start (now : Monotonic) : AuthenticatorWorld where
  now
  requests := []
  metadata := ⟨none, 0⟩
  jwks := ⟨none, 0⟩

namespace AuthenticatorWorld

/-- The world answers a call and changes. -/
inductive Answers (w : AuthenticatorWorld) :
    (c : AuthenticatorCall κ) → c.Answer → AuthenticatorWorld → Prop where
  | monotonic {now : Monotonic} (later : w.now ≤ now) :
      Answers w .monotonic now { w with now }
  | loadMetadata (now : Monotonic) : Answers w (.loadMetadata now) w.metadata w
  | storeMetadata (metadata : OidcMetadata) (expiresAt : Monotonic) :
      Answers w (.storeMetadata metadata expiresAt) ()
        { w with metadata := ⟨some metadata, expiresAt⟩ }
  | loadJwks (now : Monotonic) : Answers w (.loadJwks now) w.jwks w
  | storeJwks (jwks : Members) (expiresAt : Monotonic) :
      Answers w (.storeJwks jwks expiresAt) () { w with jwks := ⟨some jwks, expiresAt⟩ }
  | send (request : ProviderRequest) {issuedAt : Monotonic} (later : w.now ≤ issuedAt) :
      Answers w (.send request) w.requests.length
        { w with now := issuedAt, requests := w.requests ++ [⟨request, issuedAt, none⟩] }
  | receive {request : ProviderRequest} {number : ℕ} {issuedAt : Monotonic}
      (answer : ProviderAnswer) (pending : w.requests[number]? = some ⟨request, issuedAt, none⟩) :
      Answers w (.receive request number) answer
        { w with requests := w.requests.set number ⟨request, issuedAt, some answer⟩ }
  | decode (request : DecodeRequest κ) (answer : Except JwtError Members) :
      Answers w (.decode request) answer w

/-- What was issued and answered stays so, and time passes. -/
structure Grows (w w' : AuthenticatorWorld) : Prop where
  later : w.now ≤ w'.now
  kept : ∀ {number : ℕ} {r : IssuedRequest}, w.requests[number]? = some r →
    ∃ answer, w'.requests[number]? = some { r with answer } ∧
      ∀ a, r.answer = some a → answer = some a

theorem Grows.of_requests {w w' : AuthenticatorWorld} (later : w.now ≤ w'.now)
    (same : w'.requests = w.requests) : w.Grows w' :=
  ⟨later, fun {_ r} issued => ⟨r.answer, same ▸ issued, fun _ => id⟩⟩

theorem Grows.of_answers {w w' : AuthenticatorWorld} {c : AuthenticatorCall κ} {a : c.Answer}
    (answered : w.Answers c a w') : w.Grows w' := by
  cases answered with
  | monotonic later => exact .of_requests later rfl
  | loadMetadata | storeMetadata | loadJwks | storeJwks | decode => exact .of_requests le_rfl rfl
  | send request later =>
      refine ⟨later, fun {number r} issued => ⟨r.answer, ?_, fun _ => id⟩⟩
      have lt : number < w.requests.length := by
        rw [List.getElem?_eq_some_iff] at issued
        exact issued.1
      exact (List.getElem?_append_left lt).trans issued
  | @receive request number issuedAt answer pending =>
      refine ⟨le_rfl, fun {n r} issued => ?_⟩
      by_cases same : n = number
      · subst same
        rw [pending] at issued
        cases issued
        have lt : n < w.requests.length := by
          rw [List.getElem?_eq_some_iff] at pending
          exact pending.1
        exact ⟨some answer, List.getElem?_set_self lt, fun _ h => by cases h⟩
      · exact ⟨r.answer, (List.getElem?_set_ne (Ne.symm same)).trans issued, fun _ => id⟩

end AuthenticatorWorld

/-! ## What a call has done before each step -/

namespace OidcJwtManagementAuthenticator

variable (self : OidcJwtManagementAuthenticator κ)

/-- The discovery document an event puts in the hands of a call. -/
def discovered : Event (AuthenticatorEffects κ) → Option OidcMetadata
  | ⟨.loadMetadata now, cached⟩ => cached.fresh now
  | ⟨.receive ⟨.discovery, _⟩ _, answer⟩ => (self.metadataOfAnswer answer).toOption
  | _ => none

/-- The location of the next GET, from the issuer and what the call was answered. -/
def requestUrl (endpoint : Endpoint) (h : List (Event (AuthenticatorEffects κ))) : Option Str :=
  match endpoint with
  | .discovery => metadataUrl self.config.issuer
  | .jwks => ((h.filterMap self.discovered).getLast?).map (·.jwksUri)

/-- A call has just been answered a discovery document that it asked for. -/
def FetchesMetadata (h : List (Event (AuthenticatorEffects κ))) (now : Monotonic) (url : Str)
    (number : ℕ) (metadata : OidcMetadata) : Prop :=
  ∃ h' cached answer, h = h' ++ [⟨.monotonic, now⟩] ++ [⟨.loadMetadata now, cached⟩] ++
      [⟨.send ⟨.discovery, url⟩, number⟩] ++ [⟨.receive ⟨.discovery, url⟩ number, answer⟩] ∧
    metadataUrl self.config.issuer = some url ∧ self.metadataOfAnswer answer = .ok metadata

/-- A call has just been answered a key document that it asked for, with the reading of the
clock it began with. -/
def FetchesJwks (h : List (Event (AuthenticatorEffects κ))) (now : Monotonic) (url : Str)
    (number : ℕ) (jwks : Members) : Prop :=
  ∃ h' answer, h = h' ++ [⟨.send ⟨.jwks, url⟩, number⟩] ++
      [⟨.receive ⟨.jwks, url⟩ number, answer⟩] ∧
    ⟨.monotonic, now⟩ ∈ h' ∧ self.jwksOfAnswer answer = .ok jwks

/-- `_metadata_document` has just returned. -/
inductive MetadataReady : List (Event (AuthenticatorEffects κ)) → OidcMetadata → Prop where
  | cached (h : List (Event (AuthenticatorEffects κ))) {now : Monotonic}
      {cached : Cached OidcMetadata} {metadata : OidcMetadata}
      (fresh : cached.fresh now = some metadata) :
      MetadataReady (h ++ [⟨.monotonic, now⟩] ++ [⟨.loadMetadata now, cached⟩]) metadata
  | fetched {h : List (Event (AuthenticatorEffects κ))} {now : Monotonic} {url : Str} {number : ℕ}
      {metadata : OidcMetadata} (fetches : self.FetchesMetadata h now url number metadata) :
      MetadataReady (h ++ [⟨.storeMetadata metadata (now + self.cacheTtlSeconds), ()⟩]) metadata

/-- The key was selected from a document the call has looked into. -/
def Selected (h : List (Event (AuthenticatorEffects κ))) (key : κ) : Prop :=
  ∃ source jwks kid alg, (source, jwks) ∈ (self.observed h).documents ∧
    signingKeyOf self.jwt kid alg jwks = .ok (some key)

/-- What a call may do after `h`, whatever its credentials. -/
def Allowed (h : List (Event (AuthenticatorEffects κ))) : AuthenticatorCall κ → Prop
  | .send ⟨.discovery, url⟩ => metadataUrl self.config.issuer = some url
  | .send ⟨.jwks, url⟩ => ∃ metadata, self.MetadataReady h metadata ∧ metadata.jwksUri = url
  | .receive request number => ∃ h', h = h' ++ [⟨.send request, number⟩]
  | .storeMetadata metadata expiresAt => ∃ now url number,
      self.FetchesMetadata h now url number metadata ∧ expiresAt = now + self.cacheTtlSeconds
  | .storeJwks jwks expiresAt => ∃ now url number,
      self.FetchesJwks h now url number jwks ∧ expiresAt = now + self.cacheTtlSeconds
  | .decode request => self.Selected h request.key
  | .monotonic | .loadMetadata _ | .loadJwks _ => True

variable {self} {h : List (Event (AuthenticatorEffects κ))}

/-- The key documents are asked for where the last discovery document says. -/
theorem requestUrl_of_ready {metadata : OidcMetadata} (ready : self.MetadataReady h metadata) :
    self.requestUrl .jwks h = some metadata.jwksUri := by
  cases ready with
  | @cached h now cached metadata fresh =>
      have shown : self.discovered ⟨.loadMetadata now, cached⟩ = some metadata := fresh
      simp [requestUrl, List.filterMap_append, shown]
  | @fetched h now url number metadata fetches =>
      obtain ⟨h', cached, answer, rfl, -, read⟩ := fetches
      have shown : self.discovered ⟨.receive ⟨.discovery, url⟩ number, answer⟩ = some metadata := by
        simp [discovered, read, Except.toOption]
      have stored : self.discovered
          ⟨.storeMetadata metadata (now + self.cacheTtlSeconds), ()⟩ = none := rfl
      simp [requestUrl, List.filterMap_append, shown, stored]

/-- The location of a GET depends on nothing but the issuer and what was answered. -/
theorem requestUrl_of_allowed {request : ProviderRequest}
    (allowed : self.Allowed h (.send request)) :
    self.requestUrl request.endpoint h = some request.url := by
  obtain ⟨endpoint, url⟩ := request
  cases endpoint with
  | discovery => exact allowed
  | jwks =>
      obtain ⟨metadata, ready, rfl⟩ := allowed
      exact requestUrl_of_ready ready

/-! ### The methods -/

/-- `p` makes allowed calls alone. -/
def Keeps {α : Type} (self : OidcJwtManagementAuthenticator κ) (p : Authentication κ α)
    (h : List (Event (AuthenticatorEffects κ))) : Prop :=
  Meets self.Allowed (fun _ _ => True) p h

theorem metadataDocument_allowed :
    Meets self.Allowed (fun h' r => ∀ metadata, r = .ok metadata →
      self.MetadataReady h' metadata ∧ h <+: h') self.metadataDocument h := by
  rw [metadataDocument_eq]
  refine ⟨trivial, fun now => ⟨trivial, fun cached => ?_⟩⟩
  cases hfresh : Cached.fresh cached now with
  | some metadata =>
      simp only [hfresh]
      rintro _ ⟨⟩
      exact ⟨.cached h hfresh, by rw [List.append_assoc]; exact List.prefix_append _ _⟩
  | none =>
      simp only [hfresh]
      cases hurl : metadataUrl self.config.issuer with
      | none =>
          rw [fetchMetadata_of_none self hurl]
          rintro _ ⟨⟩
      | some url =>
          rw [fetchMetadata_eq self hurl]
          refine ⟨hurl, fun number => ⟨⟨_, rfl⟩, fun answer => ?_⟩⟩
          cases hmetadata : self.metadataOfAnswer answer with
          | error e =>
              simp only [hmetadata]
              rintro _ ⟨⟩
          | ok metadata =>
              simp only [hmetadata]
              have fetches : self.FetchesMetadata (h ++ [⟨.monotonic, now⟩] ++
                  [⟨.loadMetadata now, cached⟩] ++ [⟨.send ⟨.discovery, url⟩, number⟩] ++
                  [⟨.receive ⟨.discovery, url⟩ number, answer⟩]) now url number metadata :=
                ⟨h, cached, answer, rfl, hurl, hmetadata⟩
              refine ⟨⟨now, url, number, fetches, rfl⟩, fun _ => ?_⟩
              rintro _ ⟨⟩
              refine ⟨.fetched fetches, ?_⟩
              simp only [List.append_assoc]
              exact List.prefix_append _ _

theorem fetchJwks_allowed {now : Monotonic} (read : ⟨.monotonic, now⟩ ∈ h) :
    self.Keeps (self.fetchJwks now) h := by
  rw [fetchJwks_eq]
  refine meets_bind.mpr (meets_mono (fun _ _ => id) ?_ metadataDocument_allowed)
  intro h' r ready
  cases r with
  | error e => trivial
  | ok metadata =>
      obtain ⟨ready, grown⟩ := ready metadata rfl
      refine ⟨⟨metadata, ready, rfl⟩, fun number => ⟨⟨h', rfl⟩, fun answer => ?_⟩⟩
      cases hjwks : self.jwksOfAnswer answer with
      | error e => simp only [hjwks]; trivial
      | ok jwks =>
          simp only [hjwks]
          exact ⟨⟨now, metadata.jwksUri, number,
            ⟨h', answer, rfl, grown.subset read, hjwks⟩, rfl⟩, fun _ => trivial⟩

theorem jwksDocument_allowed (refresh : Bool) : self.Keeps (self.jwksDocument refresh) h := by
  rw [jwksDocument_eq]
  refine ⟨trivial, fun now => ?_⟩
  have read : ⟨.monotonic, now⟩ ∈ h ++ [⟨.monotonic, now⟩] :=
    List.mem_append_right h (List.mem_singleton_self _)
  cases refresh with
  | true => exact fetchJwks_allowed read
  | false =>
      refine ⟨trivial, fun cached => ?_⟩
      cases hfresh : Cached.fresh cached now with
      | some jwks => simp only [hfresh]; trivial
      | none =>
          simp only [hfresh]
          exact fetchJwks_allowed (List.mem_append_left _ read)

/-- A sequence of programs that each make allowed calls alone. -/
theorem Keeps.bind {α β : Type} {p : Authentication κ α} {f : α → Authentication κ β}
    (first : self.Keeps p h) (rest : ∀ a h', self.Keeps (f a) h') : self.Keeps (p >>= f) h := by
  refine meets_bind.mpr (meets_mono (fun _ _ => id) ?_ first)
  intro h' r _
  cases r with
  | ok a => exact rest a h'
  | error e => trivial

/-- A key that is found was selected from the last document. -/
theorem signingKeyFor_allowed (token : BearerToken) (refresh : Bool) :
    Meets self.Allowed (fun h' r => ∀ key, r = .ok (some key) → self.Selected h' key)
      (self.signingKeyFor token.kid token.alg refresh) h := by
  have keeps : self.Keeps (self.signingKeyFor token.kid token.alg refresh) h :=
    (jwksDocument_allowed refresh).bind fun _ _ => meets_ofExcept.mpr trivial
  refine meets_mono (fun _ _ => And.left) ?_ (meets_and keeps (signingKeyFor_shows token refresh))
  rintro h' r ⟨-, shown⟩ key rfl
  obtain ⟨source, jwks, -, look, found⟩ := shown
  refine ⟨source, jwks, token.kid, token.alg, ?_, found⟩
  rw [look]
  exact List.mem_append_right _ (List.mem_singleton_self _)

theorem verify_allowed (token : BearerToken) {key : Option κ}
    (selected : ∀ k, key = some k → self.Selected h k) : self.Keeps (self.verify token key) h := by
  cases key with
  | none => trivial
  | some key => exact ⟨selected key rfl, fun _ => meets_ofExcept.mpr trivial⟩

/-- A lookup of a key and what is done with it. -/
theorem signingKeyFor_bind_allowed (token : BearerToken) (refresh : Bool)
    {f : Option κ → Authentication κ ManagementPrincipal}
    (rest : ∀ key h', (∀ k, key = some k → self.Selected h' k) → self.Keeps (f key) h') :
    self.Keeps (self.signingKeyFor token.kid token.alg refresh >>= f) h := by
  refine meets_bind.mpr (meets_mono (fun _ _ => id) ?_ (signingKeyFor_allowed token refresh))
  intro h' r selected
  cases r with
  | error e => trivial
  | ok key => exact rest key h' fun k found => selected k (by rw [found])

/-- Every call of `authenticate` does what is allowed, with any credentials. -/
theorem authenticate_allowed (self : OidcJwtManagementAuthenticator κ)
    (credentials : Option HTTPAuthorizationCredentials) :
    Meets self.Allowed (fun _ _ => True) (self.authenticate credentials) [] := by
  rw [authenticate]
  cases self.checkToken credentials with
  | error e => trivial
  | ok token =>
      refine signingKeyFor_bind_allowed token false fun key h' selected => ?_
      split_ifs
      · exact signingKeyFor_bind_allowed token true fun key _ => verify_allowed token
      · exact verify_allowed token selected

/-! ## The calls together -/

/-- Calls of `authenticate` on one authenticator. -/
def system (self : OidcJwtManagementAuthenticator κ) :
    System (AuthenticatorEffects κ) AppError ManagementPrincipal
      (Option HTTPAuthorizationCredentials) AuthenticatorWorld where
  program := self.authenticate
  answers := AuthenticatorWorld.Answers

/-- The calls under way, with the world they share. -/
abbrev Calls (κ : Type) := Config (AuthenticatorEffects κ) AppError ManagementPrincipal
  (Option HTTPAuthorizationCredentials) AuthenticatorWorld

/-- What happens in a step of the calls. -/
abbrev Happens (κ : Type) := Label (AuthenticatorEffects κ) (Option HTTPAuthorizationCredentials)

/-- In every run a pending step is allowed by what its call has done. -/
theorem allowed_of_reachable {ok : Calls κ → Happens κ → Prop} {world : AuthenticatorWorld}
    {cfg : Calls κ} (reachable : self.system.Reachable ok world cfg) {i : ℕ}
    {credentials : Option HTTPAuthorizationCredentials} {c : AuthenticatorCall κ}
    {k : c.Answer → Authentication κ ManagementPrincipal}
    (pending : cfg.threads i = some ⟨credentials, h, .call c k⟩) : self.Allowed h c :=
  (reachable.meets self.authenticate_allowed pending).1

/-- In every run a step that was taken was allowed by what its call had done. -/
theorem allowed_of_split {ok : Calls κ → Happens κ → Prop} {world : AuthenticatorWorld}
    {cfg : Calls κ} (reachable : self.system.Reachable ok world cfg) {i : ℕ}
    {t : Thread (AuthenticatorEffects κ) AppError ManagementPrincipal
      (Option HTTPAuthorizationCredentials)}
    (running : cfg.threads i = some t) {before after : List (Event (AuthenticatorEffects κ))}
    {e : Event (AuthenticatorEffects κ)} (split : t.history = before ++ e :: after) :
    self.Allowed before e.call := by
  have trace := reachable.trace running
  rw [split] at trace
  have allowed := (self.authenticate_allowed t.request).allowed_of_trace trace
  rwa [List.nil_append] at allowed

end OidcJwtManagementAuthenticator

end WebhookMonitor
