import WebhookMonitor.Application.System
import WebhookMonitor.Interaction.Component
import WebhookMonitor.Security.Provenance

/-!
# Who is behind a request

The dependency of a management route lets a request through on a token.  In `oidc_jwt`
mode the requests of all routes share one authenticator: `authentication` is the
authenticator as a component of the application, so what its calls establish among
themselves they establish inside the application.

* `KeyPublished` — a key of a document that the issuer has published where its discovery
  document says;
* `Granted` — what stands behind an authorization;
* `granted_of_grants` — every authorization the dependency yields has that behind it.
-/

namespace WebhookMonitor

open Python Interaction ApplicationCall

variable {κ : Type}

/-! ## Keys -/

namespace OidcJwtManagementAuthenticator

/-- The key is selected, for a token with this key id and algorithm, from a document that
was published where a discovery document of the issuer says. -/
def KeyPublished (self : OidcJwtManagementAuthenticator κ) (w : AuthenticatorWorld)
    (kid : Option Str) (alg : Str) (key : κ) : Prop :=
  ∃ jwks, signingKeyOf self.jwt kid alg jwks = .ok (some key) ∧
    ∃ published ∈ w.requests, self.Publishes published jwks ∧
      ∃ discovery ∈ w.requests, ∃ metadata, self.Discovers discovery metadata ∧
        metadata.jwksUri = published.request.url

variable {self : OidcJwtManagementAuthenticator κ}
  {ok : Calls κ → Happens κ → Prop} {now : Monotonic} {cfg : Calls κ} {i : ℕ}
  {t : Thread (AuthenticatorEffects κ) AppError ManagementPrincipal
    (Option HTTPAuthorizationCredentials)}

/-- The documents a call looks into were published. -/
theorem published_of_looked (holds : self.CallsOk cfg) (running : cfg.threads i = some t)
    {source : Source} {jwks : Members}
    (looked : (source, jwks) ∈ (self.observed t.history).documents) :
    ∃ (number : ℕ) (r : IssuedRequest), cfg.world.requests[number]? = some r ∧
      self.Publishes r jwks := by
  obtain ⟨⟨c, answer⟩, mem, document⟩ := List.mem_filterMap.mp looked
  obtain ⟨before, after, split⟩ := List.append_of_mem mem
  cases c with
  | loadJwks time =>
      obtain ⟨jwks', fresh, eq⟩ := Option.map_eq_some_iff.mp document
      cases eq
      have backed : self.EventOk cfg.world before ⟨.loadJwks time, answer⟩ :=
        holds.events running split
      obtain ⟨number, r, issued, publishes, -⟩ := Backed.of_fresh backed fresh
      exact ⟨number, r, issued, publishes⟩
  | receive request number =>
      obtain ⟨endpoint, url⟩ := request
      cases endpoint with
      | discovery => cases document
      | jwks =>
          obtain ⟨jwks', found, eq⟩ := Option.map_eq_some_iff.mp document
          cases eq
          have read : self.jwksOfAnswer answer = .ok jwks := by
            cases hread : self.jwksOfAnswer answer with
            | ok d =>
                rw [hread] at found
                cases found
                rfl
            | error e =>
                rw [hread] at found
                cases found
          obtain ⟨r, issued, -, publishes⟩ := holds.publishes running mem read
          exact ⟨number, r, issued, publishes⟩
  | monotonic | loadMetadata | storeMetadata | storeJwks | send | decode => cases document

variable (self) in
/-- A token that was decoded was decoded in a call. -/
theorem mem_of_decoding {h : List (Event (AuthenticatorEffects κ))} {request : DecodeRequest κ}
    {answer : Except JwtError Members} (decoded : (request, answer) ∈ (self.observed h).decodings) :
    ⟨.decode request, answer⟩ ∈ h := by
  obtain ⟨⟨c, reply⟩, mem, shown⟩ := List.mem_filterMap.mp decoded
  cases c with
  | decode request' =>
      cases shown
      exact mem
  | monotonic | loadMetadata | storeMetadata | loadJwks | storeJwks | send | receive => cases shown

/-- They were asked for where a discovery document says. -/
theorem located_of_issued (reachable : self.system.Reachable ok (.start now) cfg) {number : ℕ}
    {r : IssuedRequest} (issued : cfg.world.requests[number]? = some r)
    (keys : r.request.endpoint = .jwks) :
    ∃ discovery ∈ cfg.world.requests, ∃ metadata, self.Discovers discovery metadata ∧
      metadata.jwksUri = r.request.url := by
  have holds := callsOk reachable
  obtain ⟨j, t', before, after, running, split⟩ := holds.sent issued
  have allowed := allowed_of_split reachable running split
  have request : r.request = ⟨.jwks, r.request.url⟩ := by rw [← keys]
  obtain ⟨metadata, ready, location⟩ : ∃ metadata, self.MetadataReady before metadata ∧
      metadata.jwksUri = r.request.url := by
    rw [request] at allowed
    exact allowed
  obtain ⟨n, discovery, asked, discovers, -⟩ := holds.tookMetadata running split ready
  exact ⟨discovery, List.mem_of_getElem? asked, metadata, discovers, location⟩

end OidcJwtManagementAuthenticator

/-! ## The authenticator as a component -/

/-- The call is one of the authenticator. -/
def ApplicationCall.isAuthentication : ApplicationCall κ → Bool
  | .authenticator _ => true
  | _ => false

/-- The authenticator among the requests of the application. -/
def authenticationComponent (self : Application κ) (deliveries : DeliveryBackend)
    (journal : JournalBackend) (authenticator : OidcJwtManagementAuthenticator κ) :
    Component (applicationSystem self deliveries journal) authenticator.system where
  calls := authentication κ
  view := authenticatorEvent
  world w := w.provider
  asks _ _ := True
  quiet c := c.isAuthentication = false
  apart _ := True
  ends _ _ _ := True
  own _ := rfl
  silent := by
    intro c a quiet
    cases c with
    | authenticator c => cases quiet
    | service | store | journal | readinessCheck => rfl
  same := by
    intro w w' c a quiet answered
    cases answered with
    | authenticator answered => cases quiet
    | service | store | journal | readinessCheck => rfl
  answers := by
    intro w w' c a answered
    cases answered with
    | authenticator answered => exact answered

/-- The program leaves the authenticator alone. -/
def Silent {α : Type} (p : Handler κ α) : Prop :=
  ∀ h, Meets (fun _ (c : ApplicationCall κ) => c.isAuthentication = false) (fun _ _ => True) p h

namespace Silent

variable {α β : Type}

theorem bind {p : Handler κ α} {f : α → Handler κ β} (first : Silent p)
    (rest : ∀ a, Silent (f a)) : Silent (p >>= f) := by
  intro h
  rw [meets_bind]
  refine meets_mono (fun _ _ => id) (fun h' r _ => ?_) (first h)
  cases r with
  | ok a => exact rest a h'
  | error e => trivial

theorem ofExcept (r : Except AppError α) : Silent (Program.ofExcept r : Handler κ α) :=
  fun _ => meets_ofExcept.mpr trivial

theorem answering {p : Handler κ α} (silent : Silent p) (answer : AppError → AppError) :
    Silent (Application.answering answer p) := fun h =>
  Application.meets_answering.mpr (meets_mono (fun _ _ => id) (fun _ _ _ => trivial) (silent h))

theorem query {c : ApplicationCall κ} (quiet : c.isAuthentication = false)
    (result : c.Answer → Except AppError α) : Silent (Application.query c result) := fun _ =>
  Application.meets_query.mpr ⟨quiet, fun _ => trivial⟩

theorem services (p : Action α) : Silent ((ApplicationCall.services κ).lift p) := fun h =>
  (Embedding.meets_lift _ p h).mpr (meets_mono (fun _ _ _ => rfl) (fun _ _ => id)
    (meets_trivial (fun _ _ => trivial) p []))

theorem storage (p : Program StoreEffects AppError α) :
    Silent ((ApplicationCall.storage κ).lift p) := fun h =>
  (Embedding.meets_lift _ p h).mpr (meets_mono (fun _ _ _ => rfl) (fun _ _ => id)
    (meets_trivial (fun _ _ => trivial) p []))

theorem parseUuid (value : Str) (detail : String) :
    Silent (Application.parseUuid value detail : Handler κ UUID) := by
  rw [Application.parseUuid]
  cases UUID.parse value with
  | none => exact fun _ => trivial
  | some id => exact fun _ => trivial

theorem localAttempt (attemptId : UUID) :
    Silent (Application.localAttempt attemptId : Handler κ DeliveryAttempt) := by
  refine bind (answering (query rfl _) _) fun attempt => ?_
  cases attempt with
  | none => exact fun _ => trivial
  | some attempt => exact fun _ => trivial

theorem listPage {self : Application κ} {listing : KeysetListing α}
    {fetch : ℕ → Option (AwareDatetime × UUID) → Handler κ (List α)}
    (silent : ∀ n after, Silent (fetch n after)) (limit : ℕ) (cursor : Option Str) :
    Silent (self.listPage listing fetch limit cursor) :=
  bind (ofExcept _) fun _ => bind (silent _ _) fun _ => bind (ofExcept _) fun _ _ => trivial

end Silent

section Approaches

variable (self : Application κ) (capability : ManagementCapability)
  (rest : ManagementAuthorization → Handler κ Answer)

/-- A route from its principal on: the capability is checked, and the rest follows. -/
def authorized (p : Authentication κ ManagementPrincipal) : Handler κ Answer :=
  (authentication κ).lift (p >>= fun principal => Program.ofExcept <|
    (authorizeManagementCapability principal capability self.gate.managementScopePolicy).mapError <|
      managementCapabilityError (self.gate.managementScopePolicy.scopeFor capability)) >>= rest

/-- The authenticator in its place before that. -/
def authorizedContext :
    Context (authentication κ) AppError ManagementPrincipal AppError Answer where
  fill p := authorized self capability rest (tryCatch p fun e => throw (managementAccessError e))
  fill_call _ _ := rfl

variable {self capability rest}

/-- With the outcome of the authentication there, nothing is left for the authenticator. -/
theorem quiet_authorized (silent : ∀ a, Silent (rest a)) (r : Except AppError ManagementPrincipal) :
    Quiet (fun c : ApplicationCall κ => c.isAuthentication = false) (fun _ => True)
      (authorized self capability rest (Program.ofExcept r)) := by
  have silentAfter : Silent (authorized self capability rest (Program.ofExcept r)) := by
    cases r with
    | error e => exact fun _ => trivial
    | ok principal =>
        refine Silent.bind (fun h => ?_) silent
        rw [Program.ofExcept_ok, Program.ret_bind, Embedding.meets_lift]
        exact meets_ofExcept.mpr trivial
  exact .of_meets (fun _ _ => id) (fun _ _ => id) (silentAfter [])

variable {deliveries : DeliveryBackend} {journal : JournalBackend}
  {authenticator : OidcJwtManagementAuthenticator κ}

/-- A route with the dependency in front comes to the authenticator at most once. -/
theorem approaches_of_authorize
    (only : ∀ other, self.gate.oidcManagementAuthenticator = some other → other = authenticator)
    (asked : Request) (credentials : Option RequestCredentials) (silent : ∀ a, Silent (rest a)) :
    (authenticationComponent self deliveries journal authenticator).Approaches asked
      ((self.over deliveries journal).authorize capability credentials >>= rest) := by
  change Component.Approaches _ asked (authorized self capability rest
    (self.gate.requireConfiguredManagementAccess (credentials.map (·.val))))
  rw [ManagementGate.requireConfiguredManagementAccess]
  split_ifs with disabled
  · exact .apart (quiet_authorized silent (.error _))
  · cases self.gate.managementAuthMode with
    | sharedToken => exact .apart (quiet_authorized silent _)
    | oidcJwt =>
        cases configured : self.gate.oidcManagementAuthenticator with
        | none => exact .apart (quiet_authorized silent (.error _))
        | some other =>
            obtain rfl := only other configured
            refine Component.Approaches.enters (C := authenticationComponent self deliveries journal
              other) (authorizedContext self capability rest) trivial fun r => ?_
            cases r with
            | ok principal => exact quiet_authorized silent (.ok principal)
            | error e => exact quiet_authorized silent (.error (managementAccessError e))

/-- Every request does. -/
theorem handle_approaches
    (only : ∀ other, self.gate.oidcManagementAuthenticator = some other → other = authenticator)
    (request : Request) :
    (authenticationComponent self deliveries journal authenticator).Approaches request
      ((self.over deliveries journal).handle request) := by
  have apart : ∀ {p : Handler κ Answer}, Silent p →
      (authenticationComponent self deliveries journal authenticator).Approaches request p :=
      fun silent =>
    .apart (.of_meets (fun _ _ => id) (fun _ _ => id) (silent []))
  have answered : ∀ {α : Type} (answer : α → Answer) (a : α),
      Silent (.ret (answer a) : Handler κ Answer) := fun _ _ _ => trivial
  cases request with
  | githubWebhook headers chunks =>
      refine apart (.bind (.bind (.ofExcept _) fun request => .bind (.answering ?_ _) fun _ =>
        .ofExcept _) fun _ _ => trivial)
      refine .bind (.ofExcept _) fun checked => .bind (fun _ => ⟨rfl, fun _ => trivial⟩) fun _ =>
        .bind (fun _ => ⟨rfl, fun _ => trivial⟩) fun _ => .bind (.ofExcept _) fun attempt =>
          .bind (.storage _) fun _ _ => trivial
  | listDeliveryAttempts credentials limit cursor =>
      change Component.Approaches _ _ ((Application.authorize _ _ _ >>= _) >>= _)
      rw [Program.bind_bind]
      refine approaches_of_authorize only _ credentials fun _ => .bind (.bind (.answering
        (.bind (.ofExcept _) fun _ => .listPage (fun _ _ => .query rfl _) _ _) _) fun _ =>
          .ofExcept _) (answered _)
  | getDeliveryAttempt credentials attemptId =>
      change Component.Approaches _ _ ((Application.authorize _ _ _ >>= _) >>= _)
      rw [Program.bind_bind]
      refine approaches_of_authorize only _ credentials fun _ => .bind (.bind (.parseUuid _ _)
        fun _ => .bind (.localAttempt _) fun _ => .ofExcept _) (answered _)
  | reconcileGithubDeliveries credentials attemptId cursor =>
      change Component.Approaches _ _ ((Application.authorize _ _ _ >>= _) >>= _)
      rw [Program.bind_bind]
      refine approaches_of_authorize only _ credentials fun _ => .bind ?_ (answered _)
      split_ifs
      · exact fun _ => trivial
      · exact .bind (.parseUuid _ _) fun _ => .bind (.localAttempt _) fun _ =>
          .bind (.answering (.services _) _) fun _ => .ofExcept _
  | requestGithubRedelivery credentials attemptId githubDeliveryId =>
      change Component.Approaches _ _ ((Application.authorize _ _ _ >>= _) >>= _)
      rw [Program.bind_bind]
      refine approaches_of_authorize only _ credentials fun _ => .bind ?_ (answered _)
      split_ifs
      · exact fun _ => trivial
      · exact .bind (.parseUuid _ _) fun _ => .bind (.ofExcept _) fun _ =>
          .bind (.localAttempt _) fun _ => .bind (.answering (.services _) _) fun _ => .ofExcept _
  | listRecoveryActions credentials limit cursor =>
      change Component.Approaches _ _ ((Application.authorize _ _ _ >>= _) >>= _)
      rw [Program.bind_bind]
      refine approaches_of_authorize only _ credentials fun _ => .bind (.bind (.answering
        (.bind (.ofExcept _) fun _ => .listPage (fun _ _ => .query rfl _) _ _) _) fun _ =>
          .ofExcept _) (answered _)
  | getRecoveryAction credentials actionId =>
      change Component.Approaches _ _ ((Application.authorize _ _ _ >>= _) >>= _)
      rw [Program.bind_bind]
      refine approaches_of_authorize only _ credentials fun _ => .bind (.bind (.parseUuid _ _)
        fun _ => .bind (.answering (.query rfl _) _) fun action => ?_) (answered _)
      cases action with
      | none => exact fun _ => trivial
      | some action => exact .ofExcept _
  | getEvents credentials =>
      change Component.Approaches _ _ ((Application.authorize _ _ _ >>= _) >>= _)
      rw [Program.bind_bind]
      exact approaches_of_authorize only _ credentials fun _ => .bind (.bind (.answering
        (.query rfl _) _) fun _ => .ofExcept _) (answered _)
  | health => exact apart fun _ => trivial
  | ready => exact apart (.bind (.query rfl _) fun _ _ => trivial)

end Approaches

/-! ## Authorizations -/

/-- The token is one of the issuer: the header passes the checks, the key is published for
it, `jwt.decode` accepts it under that key, and the principal is made of its claims. -/
def TokenAccepted (authenticator : OidcJwtManagementAuthenticator κ) (w : AuthenticatorWorld)
    (es : List (Event (AuthenticatorEffects κ))) (token : Str) (principal : ManagementPrincipal) :
    Prop :=
  ∃ header alg kid key claims, authenticator.jwt.getUnverifiedHeader token = .ok header ∧
    HeaderPasses authenticator.config header alg kid ∧ authenticator.KeyPublished w kid alg key ∧
    ⟨.decode (authenticator.config.decodeRequest token key), .ok claims⟩ ∈ es ∧
    ClaimsGive authenticator.config claims principal

/-- What stands behind an authorization of `capability`: the shared token, or a token of the
issuer that holds the scope of the capability or the umbrella. -/
inductive Granted (gate : ManagementGate κ) (w : AuthenticatorWorld)
    (capability : ManagementCapability) (credentials : Option RequestCredentials)
    (es : List (Event (AuthenticatorEffects κ))) : ManagementAuthorization → Prop where
  | sharedToken {c : RequestCredentials} (mode : gate.managementAuthMode = .sharedToken)
      (presented : credentials = some c) (bearer : lower c.val.scheme = Str.lit "bearer")
      (expected : gate.managementApiToken = some c.val.credentials) (nothing : es = []) :
      Granted gate w capability credentials es
        ⟨sharedTokenPrincipal, capability, .sharedManagementToken, none⟩
  | oidcJwt {c : RequestCredentials} {authenticator : OidcJwtManagementAuthenticator κ}
      {principal : ManagementPrincipal} {scope : Str} (mode : gate.managementAuthMode = .oidcJwt)
      (has : gate.oidcManagementAuthenticator = some authenticator)
      (presented : credentials = some c) (bearer : lower c.val.scheme = Str.lit "bearer")
      (accepted : TokenAccepted authenticator w es c.val.credentials principal)
      (held : scope ∈ principal.scopes)
      (names : scope = gate.managementScopePolicy.scopeFor capability ∨
        scope = gate.managementScopePolicy.fullManagementScope) :
      Granted gate w capability credentials es ⟨principal, capability, .oidcScope, some scope⟩

section Reachable

variable {self : Application κ} {deliveries : DeliveryBackend} {journal : JournalBackend}
  {ok : Requests κ deliveries journal → Label (ApplicationEffects κ) Request → Prop}
  {now : Monotonic} {cfg : Requests κ deliveries journal}

/-- A key of a document that a request has looked into is published. -/
theorem keyPublished_of_looked {authenticator : OidcJwtManagementAuthenticator κ}
    (has : self.gate.oidcManagementAuthenticator = some authenticator)
    (reachable : (applicationSystem self deliveries journal).Reachable ok
      (SharedWorld.start deliveries journal now) cfg)
    {i : ℕ} {t : RequestThread κ} (running : cfg.threads i = some t) {source : Source}
    {jwks : Members} {kid : Option Str} {alg : Str} {key : κ}
    (looked : (source, jwks) ∈
      (authenticator.observed (authenticatorHistory t.history)).documents)
    (found : signingKeyOf authenticator.jwt kid alg jwks = .ok (some key)) :
    authenticator.KeyPublished cfg.world.provider kid alg key := by
  have only : ∀ other, self.gate.oidcManagementAuthenticator = some other →
      other = authenticator := by
    intro other given
    rw [has] at given
    exact (Option.some.inj given).symm
  -- the calls of the authenticator by themselves
  obtain ⟨parts, run, sameWorld, -, hosted⟩ := Component.project
    (C := authenticationComponent self deliveries journal authenticator)
    (handle_approaches only) reachable
  have shows : Component.seen (parts.threads i) = authenticatorHistory t.history :=
    (hosted i t running).shows
  rw [← shows] at looked
  cases part : parts.threads i with
  | none =>
      rw [part] at looked
      cases looked
  | some t' =>
      rw [part] at looked
      have holds := OidcJwtManagementAuthenticator.callsOk run
      obtain ⟨number, published, issued, publishes⟩ :=
        OidcJwtManagementAuthenticator.published_of_looked holds part looked
      obtain ⟨discovery, asked, metadata, discovers, location⟩ :=
        OidcJwtManagementAuthenticator.located_of_issued run issued publishes.1
      rw [sameWorld] at issued asked
      exact ⟨jwks, found, published, List.mem_of_getElem? issued, publishes, discovery, asked,
        metadata, discovers, location⟩

/-- A call of the authenticator that has returned has accepted the token. -/
theorem tokenAccepted_of_trace {authenticator : OidcJwtManagementAuthenticator κ}
    (has : self.gate.oidcManagementAuthenticator = some authenticator)
    (reachable : (applicationSystem self deliveries journal).Reachable ok
      (SharedWorld.start deliveries journal now) cfg)
    {i : ℕ} {t : RequestThread κ} (running : cfg.threads i = some t)
    {credentials : Option HTTPAuthorizationCredentials}
    {es : List (Event (AuthenticatorEffects κ))} {principal : ManagementPrincipal}
    (trace : Trace (authenticator.authenticate credentials) es (.ret principal))
    (seen : es ⊆ authenticatorHistory t.history) :
    ∃ c, credentials = some c ∧ lower c.scheme = Str.lit "bearer" ∧
      TokenAccepted authenticator cfg.world.provider es c.credentials principal := by
  have ends := OidcJwtManagementAuthenticator.ending_of_trace trace rfl
  generalize hseen : authenticator.observed es = observed at ends
  generalize hr : Except.ok principal = r at ends
  cases ends with
  | refused | cutOff | badKey | unknownKey => cases hr
  | @decoded token documents source jwks key answer checked missed found =>
      obtain ⟨c, header, given, bearer, sameToken, read, passes⟩ :=
        OidcJwtManagementAuthenticator.checkToken_ok checked
      cases answer with
      | error e => cases e <;> cases hr
      | ok claims =>
          have looked : (source, jwks) ∈ (authenticator.observed es).documents := by
            rw [hseen]
            exact List.mem_append_right _ (List.mem_singleton_self _)
          have decoded : ⟨.decode (authenticator.config.decodeRequest token.token key),
              .ok claims⟩ ∈ es := by
            refine authenticator.mem_of_decoding ?_
            rw [hseen]
            exact List.mem_singleton_self _
          have published := keyPublished_of_looked has reachable running
            (List.filterMap_subset _ seen looked) found
          exact ⟨c, given, bearer, header, token.alg, token.kid, key, claims, sameToken ▸ read,
            passes, published, sameToken ▸ decoded, principalOfClaims_ok hr.symm⟩

/-- Every authorization that the dependency yields has something behind it. -/
theorem granted_of_grants
    (reachable : (applicationSystem self deliveries journal).Reachable ok
      (SharedWorld.start deliveries journal now) cfg)
    {i : ℕ} {t : RequestThread κ} (running : cfg.threads i = some t)
    {capability : ManagementCapability} {credentials : Option RequestCredentials}
    {es : List (Event (AuthenticatorEffects κ))} {authorization : ManagementAuthorization}
    (grants : self.Grants capability credentials es authorization)
    (seen : es ⊆ authenticatorHistory t.history) :
    self.gate.managementApiEnabled = true ∧
      Granted self.gate cfg.world.provider capability credentials es authorization := by
  obtain ⟨principal, first, rest, rfl, access, authorized⟩ := Trace.bind_ret grants
  obtain ⟨rfl, checked⟩ := Trace.ofExcept_ret authorized
  rw [List.append_nil] at seen
  rw [List.append_nil]
  have authorized := mapError_eq_ok.mp checked
  rw [ManagementGate.requireConfiguredManagementAccess] at access
  split_ifs at access with disabled
  · cases access
  refine ⟨by simpa using disabled, ?_⟩
  cases mode : self.gate.managementAuthMode with
  | sharedToken =>
      rw [mode] at access
      obtain ⟨rfl, authenticated⟩ := Trace.ofExcept_ret access
      obtain ⟨rfl, c, given, bearer, expected, -, -⟩ :=
        authenticateSharedManagementToken_eq_ok.mp authenticated
      obtain ⟨c, rfl, rfl⟩ := Option.map_eq_some_iff.mp given
      cases authorized
      exact .sharedToken mode rfl bearer expected rfl
  | oidcJwt =>
      rw [mode] at access
      cases has : self.gate.oidcManagementAuthenticator with
      | none => rw [has] at access; cases access
      | some authenticator =>
          rw [has] at access
          rcases Trace.tryCatch_ret access with returned | ⟨e, -, last, -, -, handled⟩
          · obtain ⟨c, given, bearer, accepted⟩ :=
              tokenAccepted_of_trace has reachable running returned seen
            obtain ⟨c, rfl, rfl⟩ := Option.map_eq_some_iff.mp given
            have method : principal.authenticationMethod = .oidcJwt := by
              obtain ⟨_, _, _, _, _, -, -, -, -, claims⟩ := accepted
              exact claims.method
            rw [authorizeManagementCapability, method] at authorized
            dsimp only at authorized
            split_ifs at authorized with required full
            · cases authorized
              exact .oidcJwt mode has rfl bearer accepted required (.inl rfl)
            · cases authorized
              exact .oidcJwt mode has rfl bearer accepted full (.inr rfl)
          · cases handled

end Reachable

end WebhookMonitor
