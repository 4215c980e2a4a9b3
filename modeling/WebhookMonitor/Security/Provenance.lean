import Mathlib.Tactic.Linarith
import WebhookMonitor.Security.SharedCaches

/-!
# Where the keys come from

Calls on one authenticator share its caches, and a document is written to its cache
after the awaits of the call that fetched it: a late answer may overwrite a newer one.
What ties an entry to its age is that its expiry is counted from a reading of the clock
before the GET was issued, so an entry that is still fresh stands for a GET issued
within the lifetime.

* `Discovers`, `Publishes` — what an answered GET gives;
* `Backed` — a cache entry stands for an answered GET, and its age;
* `EventOk`, `CallsOk` — the invariant, and `callsOk` for every interleaving;
* `Provenance` — where documents and locations come from, and `keys_have_provenance`.
-/

namespace WebhookMonitor

open Python Interaction

variable {κ : Type}

/-! ## Answered requests -/

namespace OidcJwtManagementAuthenticator

section Statements

variable (auth : OidcJwtManagementAuthenticator κ)

/-- The GET was answered with this document: a 200 response whose body it is. -/
def Answered (r : IssuedRequest) (payload : Members) : Prop :=
  ∃ response, r.answer = some (.ok response) ∧ response.statusCode = 200 ∧
    loadsBytes auth.recursionLimit response.content = .ok (.dict payload)

/-- The GET went to the location derived from the issuer, and was answered with a
discovery document that names exactly the issuer and an `https` location of its keys. -/
def Discovers (r : IssuedRequest) (metadata : OidcMetadata) : Prop :=
  r.request.endpoint = .discovery ∧ metadataUrl auth.config.issuer = some r.request.url ∧
    ∃ payload, auth.Answered r payload ∧
      Members.get payload "issuer" = .str auth.config.issuer ∧
      Members.get payload "jwks_uri" = .str metadata.jwksUri ∧
      Str.lit "https://" <+: metadata.jwksUri

/-- The GET was answered with the key document. -/
def Publishes (r : IssuedRequest) (jwks : Members) : Prop :=
  r.request.endpoint = .jwks ∧ auth.Answered r jwks

/-- The entry of a cache stands for an answered GET, which was issued at most the lifetime
before the entry expires. -/
def Backed {α : Type} (gives : IssuedRequest → α → Prop) (w : AuthenticatorWorld)
    (cached : Cached α) : Prop :=
  ∀ a, cached.value = some a → ∃ (number : ℕ) (r : IssuedRequest),
    w.requests[number]? = some r ∧ gives r a ∧
    cached.expiresAt ≤ r.issuedAt + auth.cacheTtlSeconds

/-- What an event says of the world, after the events `before` of the same call. -/
def EventOk (w : AuthenticatorWorld) (before : List (Event (AuthenticatorEffects κ))) :
    Event (AuthenticatorEffects κ) → Prop
  | ⟨.monotonic, now⟩ => now ≤ w.now
  | ⟨.loadMetadata _, cached⟩ => auth.Backed auth.Discovers w cached
  | ⟨.loadJwks _, cached⟩ => auth.Backed auth.Publishes w cached
  | ⟨.send request, number⟩ => ∃ r : IssuedRequest,
      w.requests[number]? = some r ∧ r.request = request ∧
      ∀ now, ⟨.monotonic, now⟩ ∈ before → now ≤ r.issuedAt
  | ⟨.receive request number, answer⟩ => ∃ r : IssuedRequest, w.requests[number]? = some r ∧
      r.request = request ∧ r.answer = some answer
  | ⟨.storeMetadata .., _⟩ | ⟨.storeJwks .., _⟩ | ⟨.decode _, _⟩ => True

/-- The caches, the histories of the calls and the GETs fit together. -/
structure CallsOk (cfg : Calls κ) : Prop where
  metadata : auth.Backed auth.Discovers cfg.world cfg.world.metadata
  jwks : auth.Backed auth.Publishes cfg.world cfg.world.jwks
  events : ∀ {i : ℕ} {t before e after}, cfg.threads i = some t → t.history = before ++ e :: after →
    auth.EventOk cfg.world before e
  sent : ∀ {number : ℕ} {r : IssuedRequest}, cfg.world.requests[number]? = some r →
    ∃ i t before after, cfg.threads i = some t ∧
      t.history = before ++ ⟨.send r.request, number⟩ :: after

/-- A call that saw `h` took the document from the cache less than the lifetime after its
GET was issued, or issued the GET itself. -/
def TookKeys (h : List (Event (AuthenticatorEffects κ))) (number : ℕ) (r : IssuedRequest)
    (jwks : Members) : Prop :=
  (∃ now cached, ⟨.loadJwks now, cached⟩ ∈ h ∧ cached.fresh now = some jwks ∧
      now - r.issuedAt < auth.cacheTtlSeconds) ∨
    ⟨.send r.request, number⟩ ∈ h

/-- The call has just taken the discovery document from the cache, less than the lifetime
after its GET was issued, or has just made the GET itself. -/
def TookMetadata (h : List (Event (AuthenticatorEffects κ))) (number : ℕ) (d : IssuedRequest)
    (metadata : OidcMetadata) : Prop :=
  (∃ h' now cached, h = h' ++ [⟨.monotonic, now⟩] ++ [⟨.loadMetadata now, cached⟩] ∧
      cached.fresh now = some metadata ∧ now - d.issuedAt < auth.cacheTtlSeconds) ∨
    ∃ h' now expiresAt, h = h' ++ [⟨.storeMetadata metadata expiresAt, ()⟩] ∧
      auth.FetchesMetadata h' now d.request.url number metadata

/-- Where the documents and the locations of the calls come from. -/
structure Provenance (cfg : Calls κ) : Prop where
  /-- A key is selected from a document the call has looked into. -/
  selected : ∀ {i : ℕ} {t before after} {request : DecodeRequest κ}
    {answer : Except JwtError Members}, cfg.threads i = some t →
    t.history = before ++ ⟨.decode request, answer⟩ :: after → auth.Selected before request.key
  /-- Such a document is the body of a 200 response to a GET, issued less than the lifetime
  before the call looked into the cache, or by the call. -/
  documents : ∀ {i : ℕ} {t source jwks}, cfg.threads i = some t →
    (source, jwks) ∈ (auth.observed t.history).documents →
    ∃ (number : ℕ) (r : IssuedRequest), cfg.world.requests[number]? = some r ∧
      auth.Publishes r jwks ∧ auth.TookKeys t.history number r jwks
  /-- The GET went where a discovery document of the issuer says, which the call that
  issued it has just taken from the cache or asked for. -/
  locations : ∀ {number : ℕ} {r : IssuedRequest}, cfg.world.requests[number]? = some r →
    r.request.endpoint = .jwks →
    ∃ (n : ℕ) (d : IssuedRequest) (metadata : OidcMetadata),
      cfg.world.requests[n]? = some d ∧ auth.Discovers d metadata ∧
      metadata.jwksUri = r.request.url ∧
      ∃ i t before after, cfg.threads i = some t ∧
        t.history = before ++ ⟨.send r.request, number⟩ :: after ∧
        auth.TookMetadata before n d metadata
  /-- The location of a GET is a function of the issuer and of what the call was answered. -/
  urls : ∀ {i : ℕ} {t before after} {request : ProviderRequest} {number : ℕ},
    cfg.threads i = some t → t.history = before ++ ⟨.send request, number⟩ :: after →
    auth.requestUrl request.endpoint before = some request.url

end Statements

variable {self : OidcJwtManagementAuthenticator κ} {w w' : AuthenticatorWorld}

theorem metadataOfDocument_ok {config : OidcJwtConfig} {payload : Members} {metadata : OidcMetadata}
    (read : metadataOfDocument config payload = .ok metadata) :
    Members.get payload "issuer" = .str config.issuer ∧
      Members.get payload "jwks_uri" = .str metadata.jwksUri ∧
      Str.lit "https://" <+: metadata.jwksUri := by
  rw [metadataOfDocument] at read
  split_ifs at read with issuer
  have same : Members.get payload "issuer" = .str config.issuer := by
    rw [Bool.not_eq_true', Bool.not_eq_false] at issuer
    exact Json.eqStr_iff.mp issuer
  cases location : Members.get payload "jwks_uri" with
  | str jwksUri =>
      simp only [location] at read
      split_ifs at read with https
      cases read
      exact ⟨same, rfl, List.isPrefixOf_iff_prefix.mp https⟩
  | null | bool | int | float | list | dict =>
      simp only [location] at read
      cases read

/-- A GET whose answer is read as a discovery document. -/
theorem discovers_of_read {r : IssuedRequest} {url : Str} {answer : ProviderAnswer}
    {metadata : OidcMetadata} (request : r.request = ⟨.discovery, url⟩)
    (derived : metadataUrl self.config.issuer = some url) (answered : r.answer = some answer)
    (read : self.metadataOfAnswer answer = .ok metadata) : self.Discovers r metadata := by
  obtain ⟨payload, hpayload, hmetadata⟩ := bind_eq_ok.mp read
  obtain ⟨response, rfl, status, body⟩ := providerDocument_ok.mp hpayload
  exact ⟨by rw [request], by rw [request]; exact derived, payload,
    ⟨response, answered, status, body⟩, metadataOfDocument_ok hmetadata⟩

/-- A GET whose answer is read as a key document. -/
theorem publishes_of_read {r : IssuedRequest} {url : Str} {answer : ProviderAnswer} {jwks : Members}
    (request : r.request = ⟨.jwks, url⟩) (answered : r.answer = some answer)
    (read : self.jwksOfAnswer answer = .ok jwks) : self.Publishes r jwks := by
  obtain ⟨response, rfl, status, body⟩ := providerDocument_ok.mp read
  exact ⟨by rw [request], response, answered, status, body⟩

/-! ## Growth -/

theorem Answered.of_grown {r : IssuedRequest} {answer : Option ProviderAnswer} {payload : Members}
    (kept : ∀ a, r.answer = some a → answer = some a) (answered : self.Answered r payload) :
    self.Answered { r with answer } payload := by
  obtain ⟨response, hanswer, status, body⟩ := answered
  exact ⟨response, kept _ hanswer, status, body⟩

theorem Backed.grow {α : Type} {gives : IssuedRequest → α → Prop} {cached : Cached α}
    (kept : ∀ {r a answer}, (∀ b, r.answer = some b → answer = some b) → gives r a →
      gives { r with answer } a)
    (backed : self.Backed gives w cached) (grows : w.Grows w') : self.Backed gives w' cached := by
  intro a value
  obtain ⟨number, r, issued, given, age⟩ := backed a value
  obtain ⟨answer, issued', same⟩ := grows.kept issued
  exact ⟨number, _, issued', kept same given, age⟩

theorem Backed.grow_discovers {cached : Cached OidcMetadata}
    (backed : self.Backed self.Discovers w cached) (grows : w.Grows w') :
    self.Backed self.Discovers w' cached := by
  refine backed.grow ?_ grows
  rintro r metadata answer kept ⟨endpoint, derived, payload, answered, named⟩
  exact ⟨endpoint, derived, payload, answered.of_grown kept, named⟩

theorem Backed.grow_publishes {cached : Cached Members}
    (backed : self.Backed self.Publishes w cached) (grows : w.Grows w') :
    self.Backed self.Publishes w' cached :=
  backed.grow (fun kept ⟨endpoint, answered⟩ => ⟨endpoint, answered.of_grown kept⟩) grows

/-- What an event says of the world stays so. -/
theorem EventOk.grow {before : List (Event (AuthenticatorEffects κ))}
    {e : Event (AuthenticatorEffects κ)} (holds : self.EventOk w before e) (grows : w.Grows w') :
    self.EventOk w' before e := by
  obtain ⟨c, answer⟩ := e
  cases c with
  | monotonic => exact le_trans holds grows.later
  | loadMetadata now => exact Backed.grow_discovers holds grows
  | loadJwks now => exact Backed.grow_publishes holds grows
  | send request =>
      obtain ⟨r, issued, rfl, later⟩ := holds
      obtain ⟨answer, issued', -⟩ := grows.kept issued
      exact ⟨_, issued', rfl, later⟩
  | receive request number =>
      obtain ⟨r, issued, rfl, answered⟩ := holds
      obtain ⟨answer, issued', same⟩ := grows.kept issued
      exact ⟨_, issued', rfl, same _ answered⟩
  | storeMetadata | storeJwks | decode => trivial

/-! ## One step -/

/-- One more event at the end of a history. -/
theorem snoc_eq_append_cons {α : Type} {h before after : List α} {e x : α}
    (split : h ++ [e] = before ++ x :: after) :
    (after = [] ∧ before = h ∧ x = e) ∨
      ∃ after', after = after' ++ [e] ∧ h = before ++ x :: after' := by
  rcases List.eq_nil_or_concat' after with rfl | ⟨after', y, rfl⟩
  · obtain ⟨same, last⟩ := List.append_inj' split rfl
    cases last
    exact .inl ⟨rfl, same.symm, rfl⟩
  · rw [← List.cons_append, ← List.append_assoc] at split
    obtain ⟨same, last⟩ := List.append_inj' split rfl
    cases last
    exact .inr ⟨after', rfl, same⟩

section Step

variable {cfg : Calls κ} {i : ℕ} {credentials : Option HTTPAuthorizationCredentials}
  {h : List (Event (AuthenticatorEffects κ))} {c : AuthenticatorCall κ} {a : c.Answer}
  {k : c.Answer → Authentication κ ManagementPrincipal}

/-- The readings of a call are not ahead of the clock. -/
theorem CallsOk.read (holds : self.CallsOk cfg) {t : Thread (AuthenticatorEffects κ) AppError
      ManagementPrincipal (Option HTTPAuthorizationCredentials)}
    (running : cfg.threads i = some t) {now : Monotonic} (read : ⟨.monotonic, now⟩ ∈ t.history) :
    now ≤ cfg.world.now := by
  obtain ⟨before, after, split⟩ := List.append_of_mem read
  exact holds.events running split

/-- The answer to a call says of the world what it should. -/
theorem CallsOk.eventOk (holds : self.CallsOk cfg)
    (pending : cfg.threads i = some ⟨credentials, h, .call c k⟩)
    (answered : cfg.world.Answers c a w') : self.EventOk w' h ⟨c, a⟩ := by
  have grows := AuthenticatorWorld.Grows.of_answers answered
  cases answered with
  | monotonic => exact le_rfl
  | loadMetadata => exact holds.metadata
  | loadJwks => exact holds.jwks
  | send request later =>
      exact ⟨_, List.getElem?_concat_length, rfl,
        fun now read => le_trans (holds.read pending read) later⟩
  | @receive request number issuedAt answer issued =>
      have lt : number < cfg.world.requests.length := (List.getElem?_eq_some_iff.mp issued).1
      exact ⟨_, List.getElem?_set_self lt, rfl, rfl⟩
  | storeMetadata | storeJwks | decode => trivial

/-- What a call stores stands for the GET it has just made. -/
theorem CallsOk.backed_of_fetch {α : Type} {gives : IssuedRequest → α → Prop}
    (holds : self.CallsOk cfg)
    (running : cfg.threads i = some ⟨credentials, h, .call c k⟩)
    {before : List (Event (AuthenticatorEffects κ))} {request : ProviderRequest} {number : ℕ}
    {answer : ProviderAnswer} {now : Monotonic} {value : α}
    (fetched : h = before ++ [⟨.send request, number⟩] ++ [⟨.receive request number, answer⟩])
    (read : ⟨.monotonic, now⟩ ∈ before)
    (given : ∀ r : IssuedRequest, r.request = request → r.answer = some answer → gives r value) :
    self.Backed gives cfg.world ⟨some value, now + self.cacheTtlSeconds⟩ := by
  obtain ⟨r, issued, asked, later⟩ : self.EventOk cfg.world before ⟨.send request, number⟩ :=
    holds.events running (by rw [fetched, List.append_assoc]; rfl)
  obtain ⟨r', issued', -, answered⟩ : self.EventOk cfg.world (before ++ [⟨.send request, number⟩])
      ⟨.receive request number, answer⟩ := holds.events running fetched
  rw [issued] at issued'
  cases issued'
  rintro _ ⟨⟩
  exact ⟨number, r, issued, given r asked answered, by linarith [later now read]⟩

/-- The caches after a step. -/
theorem CallsOk.caches (holds : self.CallsOk cfg)
    (pending : cfg.threads i = some ⟨credentials, h, .call c k⟩) (allowed : self.Allowed h c)
    (answered : cfg.world.Answers c a w') :
    self.Backed self.Discovers w' w'.metadata ∧ self.Backed self.Publishes w' w'.jwks := by
  have grows := AuthenticatorWorld.Grows.of_answers answered
  cases answered with
  | monotonic | loadMetadata | loadJwks | send | receive | decode =>
      exact ⟨holds.metadata.grow_discovers grows, holds.jwks.grow_publishes grows⟩
  | storeMetadata metadata expiresAt =>
      obtain ⟨now, url, number, ⟨h', cached, answer, rfl, derived, read⟩, rfl⟩ := allowed
      refine ⟨?_, holds.jwks.grow_publishes grows⟩
      refine (holds.backed_of_fetch pending rfl ?_ ?_).grow_discovers grows
      · simp
      · exact fun r asked answered => discovers_of_read asked derived answered read
  | storeJwks jwks expiresAt =>
      obtain ⟨now, url, number, ⟨h', answer, rfl, mem, read⟩, rfl⟩ := allowed
      refine ⟨holds.metadata.grow_discovers grows, ?_⟩
      refine (holds.backed_of_fetch pending rfl mem ?_).grow_publishes grows
      exact fun r asked answered => publishes_of_read asked answered read

/-- Every GET after a step was there before it, or is the one it issues. -/
theorem issued_cases (answered : w.Answers c a w') {number : ℕ} {r : IssuedRequest}
    (issued : w'.requests[number]? = some r) :
    (∃ r', w.requests[number]? = some r' ∧ r'.request = r.request) ∨
      (⟨c, a⟩ : Event (AuthenticatorEffects κ)) = ⟨.send r.request, number⟩ := by
  cases answered with
  | monotonic | loadMetadata | storeMetadata | loadJwks | storeJwks | decode =>
      exact .inl ⟨r, issued, rfl⟩
  | send request later =>
      by_cases lt : number < w.requests.length
      · exact .inl ⟨r, (List.getElem?_append_left lt).symm.trans issued, rfl⟩
      · obtain ⟨last, hlast⟩ := List.getElem?_eq_some_iff.mp issued
        rw [List.length_append, List.length_singleton] at last
        obtain rfl : number = w.requests.length := by omega
        rw [List.getElem_concat_length rfl] at hlast
        rw [← hlast]
        exact .inr rfl
  | @receive request n issuedAt answer pending =>
      by_cases same : number = n
      · subst same
        have lt : number < w.requests.length := (List.getElem?_eq_some_iff.mp pending).1
        rw [List.getElem?_set_self lt] at issued
        cases issued
        exact .inl ⟨_, pending, rfl⟩
      · exact .inl ⟨r, (List.getElem?_set_ne (Ne.symm same)).symm.trans issued, rfl⟩

/-- A history that shows an event shows it after a step. -/
theorem split_kept {e x : Event (AuthenticatorEffects κ)}
    {p q : Authentication κ ManagementPrincipal}
    (pending : cfg.threads i = some ⟨credentials, h, p⟩)
    (split : ∃ j t before after, cfg.threads j = some t ∧ t.history = before ++ x :: after) :
    ∃ j t before after, (cfg.set w' i ⟨credentials, h ++ [e], q⟩).threads j = some t ∧
      t.history = before ++ x :: after := by
  obtain ⟨j, t, before, after, running, history⟩ := split
  by_cases same : j = i
  · subst same
    rw [pending] at running
    cases running
    refine ⟨j, _, before, after ++ [e], Config.set_self .., ?_⟩
    rw [show h = before ++ x :: after from history, List.append_assoc, List.cons_append]
  · exact ⟨j, t, before, after, (Config.set_of_ne _ _ _ same).trans running, history⟩

theorem CallsOk.answer (holds : self.CallsOk cfg)
    (pending : cfg.threads i = some ⟨credentials, h, .call c k⟩) (allowed : self.Allowed h c)
    (answered : cfg.world.Answers c a w') :
    self.CallsOk (cfg.set w' i ⟨credentials, h ++ [⟨c, a⟩], k a⟩) := by
  have grows := AuthenticatorWorld.Grows.of_answers answered
  obtain ⟨metadata, jwks⟩ := holds.caches pending allowed answered
  refine ⟨metadata, jwks, fun {j t before e after} running split => ?_, fun {number r} issued => ?_⟩
  · obtain ⟨rfl, rfl⟩ | ⟨-, running⟩ := Config.set_cases running
    · rcases snoc_eq_append_cons split with ⟨-, rfl, rfl⟩ | ⟨after', -, split⟩
      · exact holds.eventOk pending answered
      · exact (holds.events pending split).grow grows
    · exact (holds.events running split).grow grows
  · rcases issued_cases answered issued with ⟨r', issued', same⟩ | event
    · exact same ▸ split_kept pending (holds.sent issued')
    · exact ⟨i, _, h, [], Config.set_self .., by rw [event]⟩

end Step

/-- In every interleaving of the calls the caches, the histories and the GETs fit
together. -/
theorem callsOk {ok : Calls κ → Happens κ → Prop} {now : Monotonic} {cfg : Calls κ}
    (reachable : self.system.Reachable ok (.start now) cfg) : self.CallsOk cfg := by
  refine reachable.invariant ⟨?_, ?_, ?_, ?_⟩ ?_
  · rintro _ ⟨⟩
  · rintro _ ⟨⟩
  · rintro i t before e after ⟨⟩
  · rintro number r ⟨⟩
  · intro cfg l cfg' before holds step _
    cases step with
    | @spawn i request free =>
        refine ⟨holds.metadata, holds.jwks, fun {j t before e after} running split => ?_,
          fun {number r} issued => ?_⟩
        · obtain ⟨rfl, rfl⟩ | ⟨-, running⟩ := Config.set_cases running
          · exact absurd split (by simp)
          · exact holds.events running split
        · obtain ⟨j, t, before, after, running, history⟩ := holds.sent issued
          have other : j ≠ i := by
            rintro rfl
            rw [free] at running
            cases running
          exact ⟨j, t, before, after, (Config.set_of_ne _ _ _ other).trans running, history⟩
    | answer pending answered =>
        exact holds.answer pending (allowed_of_reachable before pending) answered

/-! ## Provenance -/

section Provenance

variable {cfg : Calls κ} {i : ℕ} {t : Thread (AuthenticatorEffects κ) AppError
  ManagementPrincipal (Option HTTPAuthorizationCredentials)}

/-- An entry that is fresh stands for a GET of the lifetime. -/
theorem Backed.of_fresh {α : Type} {gives : IssuedRequest → α → Prop} {cached : Cached α}
    (backed : self.Backed gives w cached) {now : Monotonic} {a : α}
    (fresh : cached.fresh now = some a) :
    ∃ (number : ℕ) (r : IssuedRequest), w.requests[number]? = some r ∧ gives r a ∧
      now - r.issuedAt < self.cacheTtlSeconds := by
  obtain ⟨value, before⟩ := Option.filter_eq_some_iff.mp fresh
  obtain ⟨number, r, issued, given, age⟩ := backed a value
  have early : now < cached.expiresAt := of_decide_eq_true before
  exact ⟨number, r, issued, given, by linarith⟩

/-- The GET of a document that was received. -/
theorem CallsOk.publishes (holds : self.CallsOk cfg) (running : cfg.threads i = some t)
    {url : Str} {number : ℕ} {answer : ProviderAnswer} {jwks : Members}
    (received : ⟨.receive ⟨.jwks, url⟩ number, answer⟩ ∈ t.history)
    (read : self.jwksOfAnswer answer = .ok jwks) :
    ∃ r : IssuedRequest, cfg.world.requests[number]? = some r ∧ r.request = ⟨.jwks, url⟩ ∧
      self.Publishes r jwks := by
  obtain ⟨before, after, split⟩ := List.append_of_mem received
  obtain ⟨r, issued, asked, answered⟩ : self.EventOk cfg.world before
    ⟨.receive ⟨.jwks, url⟩ number, answer⟩ := holds.events running split
  exact ⟨r, issued, asked, publishes_of_read asked answered read⟩

/-- What has just become of a discovery document that is ready. -/
theorem CallsOk.tookMetadata (holds : self.CallsOk cfg) (running : cfg.threads i = some t)
    {before after : List (Event (AuthenticatorEffects κ))} (split : t.history = before ++ after)
    {metadata : OidcMetadata} (ready : self.MetadataReady before metadata) :
    ∃ (n : ℕ) (d : IssuedRequest), cfg.world.requests[n]? = some d ∧ self.Discovers d metadata ∧
      self.TookMetadata before n d metadata := by
  cases ready with
  | @cached h now cached metadata fresh =>
      have backed : self.EventOk cfg.world (h ++ [⟨.monotonic, now⟩])
          ⟨.loadMetadata now, cached⟩ :=
        holds.events running (by rw [split, List.append_assoc]; rfl)
      obtain ⟨n, d, issued, discovers, age⟩ := Backed.of_fresh backed fresh
      exact ⟨n, d, issued, discovers, .inl ⟨h, now, cached, rfl, fresh, age⟩⟩
  | @fetched h now url number metadata fetches =>
      obtain ⟨h', cached, answer, rfl, derived, read⟩ := fetches
      obtain ⟨d, issued, asked, answered⟩ := holds.events (e := ⟨.receive _ _, answer⟩) running
        (by rw [split, List.append_assoc, List.append_assoc]; rfl)
      exact ⟨number, d, issued, discovers_of_read asked derived answered read, .inr
        ⟨_, now, _, rfl, h', cached, answer, by rw [asked], by rw [asked]; exact derived, read⟩⟩

theorem keys_have_provenance (self : OidcJwtManagementAuthenticator κ) {now : Monotonic}
    {cfg : Calls κ} (reachable : self.system.Reachable (fun _ _ => True) (.start now) cfg) :
    self.Provenance cfg := by
  have holds := callsOk reachable
  refine ⟨fun running split => allowed_of_split reachable running split, ?_, ?_,
    fun running split => requestUrl_of_allowed (allowed_of_split reachable running split)⟩
  · intro i t source jwks running looked
    obtain ⟨⟨c, answer⟩, mem, document⟩ := List.mem_filterMap.mp looked
    obtain ⟨before, after, split⟩ := List.append_of_mem mem
    cases c with
    -- from the cache: it holds what some exchange published
    | loadJwks now =>
        obtain ⟨jwks', fresh, eq⟩ := Option.map_eq_some_iff.mp document
        cases eq
        have backed : self.EventOk cfg.world before ⟨.loadJwks now, answer⟩ :=
          holds.events running split
        obtain ⟨number, r, issued, publishes, age⟩ := Backed.of_fresh backed fresh
        exact ⟨number, r, issued, publishes, .inl ⟨now, answer, mem, fresh, age⟩⟩
    | receive request number =>
        obtain ⟨endpoint, url⟩ := request
        cases endpoint with
        | discovery => cases document
        | jwks =>
            obtain ⟨jwks', found, eq⟩ := Option.map_eq_some_iff.mp document
            cases eq
            have read : self.jwksOfAnswer answer = .ok jwks := by
              cases hread : self.jwksOfAnswer answer with
              | ok d => rw [hread] at found; cases found; rfl
              | error e => rw [hread] at found; cases found
            obtain ⟨r, issued, asked, publishes⟩ := holds.publishes running mem read
            -- what is received was sent by the same call just before
            obtain ⟨h', sent⟩ := allowed_of_split reachable running split
            refine ⟨number, r, issued, publishes, .inr ?_⟩
            rw [asked, split, sent]
            simp
    | monotonic | loadMetadata | storeMetadata | storeJwks | send | decode => cases document
  · intro number r issued endpoint
    obtain ⟨i, t, before, after, running, split⟩ := holds.sent issued
    have allowed := allowed_of_split reachable running split
    have request : r.request = ⟨.jwks, r.request.url⟩ := by rw [← endpoint]
    -- the request was sent to the location in the metadata
    obtain ⟨metadata, ready, location⟩ : ∃ metadata, self.MetadataReady before metadata ∧
        metadata.jwksUri = r.request.url := by
      rw [request] at allowed
      exact allowed
    obtain ⟨n, d, asked, discovers, took⟩ := holds.tookMetadata running split ready
    exact ⟨n, d, metadata, asked, discovers, location, i, t, before, after, running, split, took⟩

end Provenance

end OidcJwtManagementAuthenticator

/-! ## A late answer -/

open OidcJwtManagementAuthenticator (Calls)

/-- A 200 response with this text. -/
def okResponse (text : String) : ProviderAnswer :=
  .ok ⟨200, (Str.lit text).map fun c => UInt8.ofNat c.val⟩

/-- What the provider of the sample token answers. -/
def sampleDocument : Endpoint → ProviderAnswer
  | .discovery => okResponse "\x7b\"issuer\":\"https://i\",\"jwks_uri\":\"https://i/j\"\x7d"
  | .jwks => okResponse "\x7b\"keys\":[\x7b\"kid\":\"k\"\x7d]\x7d"

/-- The world in which the keys are asked for `delay` after the discovery document, and
the token is accepted. -/
def AuthenticatorWorld.choose (delay : Monotonic) (documents : Endpoint → ProviderAnswer)
    (w : AuthenticatorWorld) :
    (c : AuthenticatorCall Members) → Option (c.Answer × AuthenticatorWorld)
  | .monotonic => some (w.now, w)
  | .loadMetadata _ => some (w.metadata, w)
  | .storeMetadata metadata expiresAt =>
      some ((), { w with metadata := ⟨some metadata, expiresAt⟩ })
  | .loadJwks _ => some (w.jwks, w)
  | .storeJwks jwks expiresAt => some ((), { w with jwks := ⟨some jwks, expiresAt⟩ })
  | .send request =>
      let issuedAt := if request.endpoint = .jwks then w.now + delay else w.now
      some (w.requests.length,
        { w with now := issuedAt, requests := w.requests ++ [⟨request, issuedAt, none⟩] })
  | .receive request number =>
      match w.requests[number]? with
      | some ⟨issued, issuedAt, none⟩ =>
          if issued = request then
            let answered : IssuedRequest := ⟨request, issuedAt, some (documents request.endpoint)⟩
            some (documents request.endpoint,
              { w with requests := w.requests.set number answered })
          else none
      | _ => none
  | .decode _ => some (.ok sampleClaims, w)

theorem AuthenticatorWorld.choose_sound {delay : Monotonic} (late : 0 ≤ delay)
    {documents : Endpoint → ProviderAnswer} {w w' : AuthenticatorWorld}
    {c : AuthenticatorCall Members} {a : c.Answer}
    (chosen : AuthenticatorWorld.choose delay documents w c = some (a, w')) : w.Answers c a w' := by
  cases c with
  | monotonic =>
      cases chosen
      exact .monotonic le_rfl
  | loadMetadata | storeMetadata | loadJwks | storeJwks | decode =>
      cases chosen
      constructor
  | send request =>
      cases chosen
      refine .send request ?_
      split_ifs
      · exact le_add_of_nonneg_right late
      · exact le_rfl
  | receive request number =>
      rw [choose] at chosen
      split at chosen
      · rename_i issued issuedAt pending
        split_ifs at chosen with same
        cases chosen
        exact .receive _ (same ▸ pending)
      · cases chosen

/-- The discovery document that located a GET was itself asked for less than the lifetime
before. -/
def LocatedRecently (auth : OidcJwtManagementAuthenticator κ) (cfg : Calls κ) : Prop :=
  ∀ {number : ℕ} {r : IssuedRequest}, cfg.world.requests[number]? = some r →
    r.request.endpoint = .jwks → ∃ (n : ℕ) (d : IssuedRequest) (metadata : OidcMetadata),
      cfg.world.requests[n]? = some d ∧ auth.Discovers d metadata ∧
      metadata.jwksUri = r.request.url ∧ r.issuedAt - d.issuedAt < auth.cacheTtlSeconds

/-- Whether a call has returned a principal. -/
def acceptedCall (cfg : Calls κ) (i : ℕ) : Bool :=
  match (cfg.threads i).bind fun t => t.rest.outcome with
  | some (.ok _) => true
  | _ => false

/-- What was asked for, and when. -/
def issuedRequests (cfg : Calls κ) : List (Endpoint × Monotonic) :=
  cfg.world.requests.map fun r => (r.request.endpoint, r.issuedAt)

/-- A call by itself, up to the end. -/
def oneCall : List (Move (Option HTTPAuthorizationCredentials)) :=
  .start 0 (some sampleCredentials) :: List.replicate 11 (.go 0)

/-- A call is accepted, with keys that were asked for a lifetime after the discovery
document. -/
def AcceptedLate (cfg : Calls Members) : Prop :=
  acceptedCall cfg 0 = true ∧ issuedRequests cfg = [(.discovery, 0), (.jwks, 300)]

theorem exists_acceptedLate :
    ∃ cfg, sampleAuthenticator.system.Reachable (fun _ _ => True) (.start 0) cfg ∧
      AcceptedLate cfg := by
  have ran : (sampleAuthenticator.system.play (AuthenticatorWorld.choose 300 sampleDocument)
      (fun _ _ => true) (Config.initial (.start 0)) oneCall).map
        (fun cfg => (acceptedCall cfg 0, issuedRequests cfg)) =
      some (true, [(.discovery, 0), (.jwks, 300)]) := by decide +kernel
  obtain ⟨cfg, played, shown⟩ := Option.map_eq_some_iff.mp ran
  rw [Prod.mk.injEq] at shown
  exact ⟨cfg, System.reachable_of_play (AuthenticatorWorld.choose_sound (by norm_num))
    (fun _ => trivial) .initial played, shown⟩

/-- The discovery document is the only one, and as old as the delay. -/
theorem not_locatedRecently {cfg : Calls Members}
    (accepted : AcceptedLate cfg) : ¬ LocatedRecently sampleAuthenticator cfg := by
  intro located
  have shown : ∀ (number : ℕ), (cfg.world.requests[number]?).map
      (fun r => (r.request.endpoint, r.issuedAt)) =
        [(Endpoint.discovery, (0 : Monotonic)), (.jwks, 300)][number]? := by
    intro number
    rw [← accepted.2, issuedRequests, List.getElem?_map]
  obtain ⟨r, issued, hr⟩ := Option.map_eq_some_iff.mp (shown 1)
  obtain ⟨endpoint, late⟩ := Prod.mk.inj hr
  obtain ⟨n, d, metadata, asked, discovers, -, recent⟩ := located issued endpoint
  have entry := shown n
  rw [asked, Option.map_some, discovers.1] at entry
  have early : d.issuedAt = 0 := by
    have mem := List.mem_of_getElem? entry.symm
    simpa using mem
  rw [late, early] at recent
  exact absurd recent (by norm_num [sampleAuthenticator])

/-- A discovery document that comes after its lifetime is used all the same, by the call
that asked for it. -/
theorem lateDiscovery_used :
    ∃ cfg : Calls Members,
      sampleAuthenticator.system.Reachable (fun _ _ => True) (.start 0) cfg ∧
        acceptedCall cfg 0 = true ∧ ¬ LocatedRecently sampleAuthenticator cfg := by
  obtain ⟨cfg, reachable, accepted⟩ := exists_acceptedLate
  exact ⟨cfg, reachable, accepted.1, not_locatedRecently accepted⟩

theorem keys_have_provenance_sample :
    ∃ cfg : Calls Members,
      acceptedCall cfg 0 = true ∧ sampleAuthenticator.Provenance cfg := by
  obtain ⟨cfg, reachable, accepted⟩ := exists_acceptedLate
  exact ⟨cfg, accepted.1, sampleAuthenticator.keys_have_provenance reachable⟩

end WebhookMonitor
