import WebhookMonitor.Security.Faults
import WebhookMonitor.Security.Provenance

/-!
# What the key cache holds

`_jwks_document` stores any JSON object it is answered; `_signing_key_for` looks for
keys in it afterwards.  So the cached document has keys in every run in which every such
answer has, and then a document that is served again is found by the next call.

* `ServesKeys` — a step in which no object without keys is answered;
* `stores_received` — what is stored has just been received;
* `NamedOnce`, `Lacks` — a key of a document, and a document without it;
* `Serves` — the provider serves a document again, and `accepted_of_serves`;
* `KeyCacheUsable` — all together, and `keyCache_usable`.
-/

namespace WebhookMonitor

open Python Interaction

variable {κ : Type}

namespace OidcJwtManagementAuthenticator

section Statements

variable (auth : OidcJwtManagementAuthenticator κ)

/-- The event is no answer to a GET for the keys that has status 200 and is a JSON object
with no list of keys or an empty one. -/
def HasKeysIfAny : Event (AuthenticatorEffects κ) → Prop
  | ⟨.receive ⟨.jwks, _⟩ _, answer⟩ => ∀ response payload, answer = .ok response →
      response.statusCode = 200 →
      loadsBytes auth.recursionLimit response.content = .ok (.dict payload) → HasKeys payload
  | _ => True

/-- A step in which no such object is answered. -/
def ServesKeys (_ : Calls κ) : Happens κ → Prop
  | .answer _ event => auth.HasKeysIfAny event
  | .spawn .. => True

/-- One entry of the document has this key id. -/
def NamedOnce (jwks : Members) (kid : Str) (jwk : Members) : Prop :=
  ∃ before after, Members.get jwks "keys" = .list (before ++ .dict jwk :: after) ∧
    Members.get jwk "kid" = .str kid ∧
    ∀ other, .dict other ∈ before ++ after → Members.get other "kid" ≠ .str kid

/-- No entry of the document has this key id. -/
def Lacks (jwks : Members) (kid : Str) : Prop :=
  ∀ keys, Members.get jwks "keys" = .list keys → ∀ other, .dict other ∈ keys →
    Members.get other "kid" ≠ .str kid

/-- The key of an entry for the token. -/
structure KeyOf (token : BearerToken) (jwk : Members) (key : κ) : Prop where
  not_symmetric : Members.get jwk "kty" ≠ .str "oct"
  algorithm : Members.get jwk "alg" = .null ∨ Members.get jwk "alg" = .str token.alg
  built : auth.jwt.fromDict jwk token.alg = .ok key

/-- The world answers as it may; the provider serves its discovery document and the key
document, and the token is accepted under the key. -/
structure Serves (respond : AuthenticatorWorld → (c : AuthenticatorCall κ) →
    c.Answer × AuthenticatorWorld) (token : BearerToken) (jwks : Members) (key : κ) : Prop where
  sound : ∀ {w w' : AuthenticatorWorld} {c : AuthenticatorCall κ} {a : c.Answer},
    w.Answers c a w' → w.Answers c (respond w c).1 (respond w c).2
  location : ∃ url, metadataUrl auth.config.issuer = some url
  discovery : ∀ w url number, ∃ metadata,
    auth.metadataOfAnswer (respond w (.receive ⟨.discovery, url⟩ number)).1 = .ok metadata
  keys : ∀ w url number,
    auth.jwksOfAnswer (respond w (.receive ⟨.jwks, url⟩ number)).1 = .ok jwks
  signed : ∀ w, ∃ principal, verifiedPrincipal auth.config
    (respond w (.decode (auth.config.decodeRequest token.token key))).1 = .ok principal

/-- What holds of the key cache. -/
structure KeyCacheUsable (cfg : Calls κ) : Prop where
  /-- The cached document has keys. -/
  cached : ∀ jwks, cfg.world.jwks.value = some jwks → HasKeys jwks
  /-- A step leaves the cached document and its expiry in force, or stores a document with
  keys that its call has just received. -/
  changes : ∀ {l : Happens κ} {cfg' : Calls κ}, auth.system.Step cfg l cfg' →
    cfg'.world.jwks = cfg.world.jwks ∨
      ∃ i t now url number jwks, cfg.threads i = some t ∧
        auth.FetchesJwks t.history now url number jwks ∧ HasKeys jwks ∧
        cfg'.world.jwks = ⟨some jwks, now + auth.cacheTtlSeconds⟩
  /-- Once the provider serves a document again, the next call accepts a token signed with a
  key of it that the cached document does not name. -/
  recovers : ∀ {respond token kid jwks jwk key credentials},
    auth.Serves respond token jwks key → auth.checkToken credentials = .ok token →
    token.kid = some kid → NamedOnce jwks kid jwk → auth.KeyOf token jwk key →
    (∀ cached, cfg.world.jwks.value = some cached → Lacks cached kid) →
    ∃ principal, ((auth.authenticate credentials).runWith respond cfg.world).1 = .ok principal

end Statements

variable {self : OidcJwtManagementAuthenticator κ}

/-! ## The entries -/

/-- The loop passes over the entries of other keys. -/
theorem entryFor_append {kid : Str} (alg : Str) {before : List Json} (rest : List Json)
    (others : ∀ other, .dict other ∈ before → Members.get other "kid" ≠ .str kid) :
    entryFor (some kid) alg (before ++ rest) = entryFor (some kid) alg rest := by
  induction before with
  | nil => rfl
  | cons item before ih =>
      have later := ih fun other mem => others other (List.mem_cons_of_mem _ mem)
      cases item with
      | dict other =>
          have passed : Stops (some kid) alg other = false := by
            have named : (Members.get other "kid").eqStr kid = false := by
              rw [Bool.eq_false_iff]
              exact fun same => others other List.mem_cons_self (Json.eqStr_iff.mp same)
            rw [Stops, Option.all_some, named, Bool.false_and]
          rw [List.cons_append, entryFor, passed]
          exact later
      | null | bool | int | float | str | list => exact later

/-- A document without the key has no key for the token. -/
theorem signingKeyOf_of_lacks {kid alg : Str} {jwks : Members} (keys : HasKeys jwks)
    (lacks : Lacks jwks kid) : signingKeyOf self.jwt (some kid) alg jwks = .ok none := by
  obtain ⟨keys, isKeys, nonempty⟩ := keys
  have passed := entryFor_append alg [] (lacks keys isKeys)
  rw [List.append_nil] at passed
  rw [signingKeyOf, isKeys]
  refine (if_neg nonempty).trans ((if_neg fun h => ?_).trans ?_)
  · cases h.1
  · rw [selectKey_eq, passed]
    rfl

/-- A document with the key has it for the token. -/
theorem signingKeyOf_of_namedOnce {token : BearerToken} {kid : Str} {jwks jwk : Members} {key : κ}
    (named : token.kid = some kid) (once : NamedOnce jwks kid jwk)
    (keyOf : self.KeyOf token jwk key) :
    signingKeyOf self.jwt token.kid token.alg jwks = .ok (some key) := by
  obtain ⟨before, after, isKeys, isKid, others⟩ := once
  have stops : Stops (some kid) token.alg jwk = true := by
    rw [Stops, Option.all_some, Json.eqStr_iff.mpr isKid, Bool.true_and]
    rcases keyOf.algorithm with absent | same
    · rw [Json.isNone_iff.mpr absent, Bool.or_true, Bool.true_or]
    · rw [Json.eqStr_iff.mpr same, Bool.or_true]
  have found : entryFor (some kid) token.alg (before ++ .dict jwk :: after) = some jwk := by
    rw [entryFor_append _ _ fun other mem => others other (List.mem_append_left _ mem), entryFor,
      stops]
    rfl
  have builds : Builds token jwks jwk := by
    refine ⟨_, isKeys, fun unnamed => ?_, named ▸ found, keyOf.not_symmetric⟩
    rw [named] at unnamed
    cases unnamed
  rw [signingKeyOf_of_builds builds, keyOf.built]

/-! ## The next call -/

section Served

variable {respond : AuthenticatorWorld → (c : AuthenticatorCall κ) →
    c.Answer × AuthenticatorWorld} {token : BearerToken} {jwks : Members} {key : κ}

/-- The discovery document is had. -/
theorem metadataDocument_served (serves : self.Serves respond token jwks key)
    (w : AuthenticatorWorld) :
    ∃ metadata w', self.metadataDocument.runWith respond w = (.ok metadata, w') := by
  rw [metadataDocument_eq, Program.runWith_call, Program.runWith_call]
  generalize (respond w .monotonic).1 = now
  generalize (respond w .monotonic).2 = w₁
  cases hfresh : Cached.fresh (respond w₁ (.loadMetadata now)).1 now with
  | some metadata =>
      dsimp only
      exact ⟨_, _, rfl⟩
  | none =>
      obtain ⟨url, derived⟩ := serves.location
      dsimp only
      rw [fetchMetadata_eq self derived, Program.runWith_call, Program.runWith_call]
      obtain ⟨metadata, read⟩ := serves.discovery _ url _
      rw [read]
      exact ⟨_, _, rfl⟩

/-- The key document is had when it is asked for. -/
theorem fetchJwks_served (serves : self.Serves respond token jwks key) (now : Monotonic)
    (w : AuthenticatorWorld) :
    ∃ w', (self.fetchJwks now).runWith respond w = (.ok jwks, w') := by
  obtain ⟨metadata, w₁, ran⟩ := metadataDocument_served serves w
  rw [fetchJwks_eq, Program.runWith_bind, ran]
  dsimp only
  rw [requestJwks, Program.runWith_call, Program.runWith_call, serves.keys]
  exact ⟨_, rfl⟩

/-- A lookup finds the cached document or the one that is served, and a refresh the one that
is served. -/
theorem jwksDocument_served (serves : self.Serves respond token jwks key) (refresh : Bool)
    (w : AuthenticatorWorld) :
    ∃ document w', (self.jwksDocument refresh).runWith respond w = (.ok document, w') ∧
      (document = jwks ∨ refresh = false ∧ w.jwks.value = some document) := by
  rw [jwksDocument_eq, Program.runWith_call]
  have read := serves.sound (AuthenticatorWorld.Answers.monotonic (le_refl w.now))
  generalize hnow : (respond w .monotonic).1 = now at read
  generalize hworld : (respond w .monotonic).2 = w₁ at read
  have same : w₁.jwks = w.jwks := by
    cases read
    rfl
  cases refresh with
  | true =>
      obtain ⟨w', ran⟩ := fetchJwks_served serves now w₁
      exact ⟨jwks, w', ran, .inl rfl⟩
  | false =>
      rw [if_neg Bool.false_ne_true, Program.runWith_call]
      have loaded := serves.sound (AuthenticatorWorld.Answers.loadJwks (w := w₁) now)
      generalize (respond w₁ (.loadJwks now)).2 = w₂ at loaded
      generalize hcached : (respond w₁ (.loadJwks now)).1 = cached at loaded
      have held : cached = w.jwks := by
        cases loaded
        exact same
      cases hfresh : Cached.fresh cached now with
      | some document =>
          dsimp only
          have value := (Option.filter_eq_some_iff.mp hfresh).1
          exact ⟨document, w₂, rfl, .inr ⟨rfl, held ▸ value⟩⟩
      | none =>
          dsimp only
          obtain ⟨w', ran⟩ := fetchJwks_served serves now w₂
          exact ⟨jwks, w', ran, .inl rfl⟩

theorem verify_served (serves : self.Serves respond token jwks key) (w : AuthenticatorWorld) :
    ∃ principal, ((self.verify token (some key)).runWith respond w).1 = .ok principal := by
  obtain ⟨principal, accepted⟩ := serves.signed w
  rw [verify_some, Program.runWith_call, Program.runWith_ofExcept]
  exact ⟨principal, accepted⟩

/-- A lookup finds the key, or none in the cached document. -/
theorem signingKeyFor_served (serves : self.Serves respond token jwks key)
    (found : signingKeyOf self.jwt token.kid token.alg jwks = .ok (some key)) (refresh : Bool)
    (w : AuthenticatorWorld)
    (held : refresh = false → ∀ cached, w.jwks.value = some cached →
      signingKeyOf self.jwt token.kid token.alg cached = .ok none) :
    ∃ k w', (self.signingKeyFor token.kid token.alg refresh).runWith respond w = (.ok k, w') ∧
      (k = some key ∨ refresh = false ∧ k = none) := by
  obtain ⟨document, w', ran, source⟩ := jwksDocument_served serves refresh w
  rw [signingKeyFor, Program.runWith_bind, ran]
  dsimp only
  rw [Program.runWith_ofExcept]
  rcases source with rfl | ⟨first, value⟩
  · rw [found]
    exact ⟨_, _, rfl, .inl rfl⟩
  · rw [held first document value]
    exact ⟨_, _, rfl, .inr ⟨first, rfl⟩⟩

/-- The next call accepts the token. -/
theorem accepted_of_serves (serves : self.Serves respond token jwks key) {kid : Str}
    {credentials : Option HTTPAuthorizationCredentials}
    (checked : self.checkToken credentials = .ok token) (named : token.kid = some kid)
    (found : signingKeyOf self.jwt token.kid token.alg jwks = .ok (some key))
    (w : AuthenticatorWorld)
    (held : ∀ cached, w.jwks.value = some cached →
      signingKeyOf self.jwt token.kid token.alg cached = .ok none) :
    ∃ principal, ((self.authenticate credentials).runWith respond w).1 = .ok principal := by
  obtain ⟨k, w₁, ran, first⟩ := signingKeyFor_served serves found false w fun _ => held
  rw [authenticate, checked, Program.ofExcept_ok, Program.ret_bind, authenticateToken,
    Program.runWith_bind, ran]
  dsimp only
  rcases first with rfl | ⟨-, rfl⟩
  · exact verify_served serves w₁
  · -- the cached document has no key for the token: it is fetched again
    obtain ⟨k, w₂, ran, second⟩ := signingKeyFor_served serves found true w₁
      fun first => absurd first (by decide)
    have retried : (if (none : Option κ).isNone && token.kid.isSome then
          self.signingKeyFor token.kid token.alg true >>= self.verify token
        else self.verify token none) =
        self.signingKeyFor token.kid token.alg true >>= self.verify token := by
      rw [named]
      rfl
    rw [retried, Program.runWith_bind, ran]
    dsimp only
    rcases second with rfl | ⟨first, -⟩
    · exact verify_served serves w₂
    · cases first

end Served

/-! ## Every run -/

section Runs

variable {now : Monotonic} {cfg : Calls κ}

/-- What a call has just received has keys. -/
theorem hasKeys_of_fetches (reachable : self.system.Reachable self.ServesKeys (.start now) cfg)
    {i : ℕ} {t : Thread (AuthenticatorEffects κ) AppError ManagementPrincipal
      (Option HTTPAuthorizationCredentials)} (running : cfg.threads i = some t)
    {time : Monotonic} {url : Str} {number : ℕ} {jwks : Members}
    (fetches : self.FetchesJwks t.history time url number jwks) : HasKeys jwks := by
  obtain ⟨h', answer, history, -, read⟩ := fetches
  obtain ⟨response, rfl, status, body⟩ := providerDocument_ok.mp read
  have served := reachable.event (Q := self.HasKeysIfAny) (fun _ _ meets _ => meets) running
  exact served ⟨.receive ⟨.jwks, url⟩ number, .ok response⟩ (by rw [history]; simp) response jwks
    rfl status body

/-- A step leaves the key cache as it is, or stores what its call has just received. -/
theorem jwks_of_step {ok : Calls κ → Happens κ → Prop}
    (reachable : self.system.Reachable ok (.start now) cfg) {l : Happens κ} {cfg' : Calls κ}
    (step : self.system.Step cfg l cfg') :
    cfg'.world.jwks = cfg.world.jwks ∨
      ∃ i t now url number jwks, cfg.threads i = some t ∧
        self.FetchesJwks t.history now url number jwks ∧
        cfg'.world.jwks = ⟨some jwks, now + self.cacheTtlSeconds⟩ := by
  cases step with
  | spawn request free => exact .inl rfl
  | @answer i request history c k a world pending answered =>
      have allowed := allowed_of_reachable reachable pending
      cases answered with
      | storeJwks jwks expiresAt =>
          obtain ⟨time, url, number, fetches, rfl⟩ := allowed
          exact .inr ⟨i, _, time, url, number, jwks, pending, fetches, rfl⟩
      | monotonic | loadMetadata | storeMetadata | loadJwks | send | receive | decode =>
          exact .inl rfl

theorem keyCache_usable (self : OidcJwtManagementAuthenticator κ) {now : Monotonic} {cfg : Calls κ}
    (reachable : self.system.Reachable self.ServesKeys (.start now) cfg) :
    self.KeyCacheUsable cfg := by
  have cached : ∀ jwks, cfg.world.jwks.value = some jwks → HasKeys jwks := by
    refine reachable.invariant (P := fun cfg => ∀ jwks, cfg.world.jwks.value = some jwks →
      HasKeys jwks) ?_ ?_
    · rintro jwks ⟨⟩
    · intro cfg l cfg' before keys step _ jwks value
      rcases jwks_of_step before step with same | ⟨i, t, _, _, _, stored, running, fetches, set⟩
      · exact keys jwks (same ▸ value)
      · rw [set] at value
        cases value
        exact hasKeys_of_fetches before running fetches
  refine ⟨cached, fun step => ?_, ?_⟩
  · rcases jwks_of_step reachable step with
      same | ⟨i, t, time, url, number, jwks, running, fetches, set⟩
    · exact .inl same
    · exact .inr ⟨i, t, time, url, number, jwks, running, fetches,
        hasKeys_of_fetches reachable running fetches, set⟩
  · intro respond token kid jwks jwk key credentials serves checked named once keyOf lacks
    refine accepted_of_serves serves checked named (signingKeyOf_of_namedOnce named once keyOf)
      cfg.world fun document value => ?_
    rw [named]
    exact signingKeyOf_of_lacks (cached document value) (lacks document value)

end Runs

end OidcJwtManagementAuthenticator

/-! ## An object without keys -/

open OidcJwtManagementAuthenticator (Calls Happens)

/-- A provider whose key document is an empty object. -/
def emptyDocument : Endpoint → ProviderAnswer
  | .discovery => sampleDocument .discovery
  | .jwks => okResponse "\x7b\x7d"

/-- An empty object enters the key cache. -/
theorem emptyDocument_cached :
    ∃ cfg : Calls Members,
      sampleAuthenticator.system.Reachable (fun _ _ => True) (.start 0) cfg ∧
        ¬ sampleAuthenticator.KeyCacheUsable cfg := by
  have ran : (sampleAuthenticator.system.play (AuthenticatorWorld.choose 0 emptyDocument)
      (fun _ _ => true) (Config.initial (.start 0)) (oneCall.take 11)).map
        (fun cfg => cfg.world.jwks.value.map fun jwks => (Members.get jwks "keys").isNone) =
      some (some true) := by decide +kernel
  obtain ⟨cfg, played, shown⟩ := Option.map_eq_some_iff.mp ran
  obtain ⟨jwks, cached, absent⟩ := Option.map_eq_some_iff.mp shown
  refine ⟨cfg, System.reachable_of_play (AuthenticatorWorld.choose_sound le_rfl)
    (fun _ => trivial) .initial played, fun usable => ?_⟩
  obtain ⟨keys, isKeys, -⟩ := usable.cached jwks cached
  rw [isKeys] at absent
  cases absent

/-- A step in which the keys are those of the sample document. -/
def servesSample (_ : Calls Members) : Happens Members → Bool
  | .answer _ ⟨.receive ⟨.jwks, _⟩ _, answer⟩ => answer = sampleDocument .jwks
  | _ => true

/-- The sample document has keys: a token of another key is not found in it. -/
theorem sampleDocument_hasKeys {jwks : Members}
    (read : sampleAuthenticator.jwksOfAnswer (sampleDocument .jwks) = .ok jwks) :
    HasKeys jwks := by
  have searched : (sampleAuthenticator.jwksOfAnswer (sampleDocument .jwks)).toOption.all
      (fun jwks => (signingKeyOf sampleAuthenticator.jwt (some []) [] jwks).toOption.any
        Option.isNone) = true := by decide +kernel
  rw [read] at searched
  have found : (signingKeyOf sampleAuthenticator.jwt (some []) [] jwks).toOption.any
      Option.isNone = true := searched
  cases missed : signingKeyOf sampleAuthenticator.jwt (some []) [] jwks with
  | error e =>
      rw [missed] at found
      cases found
  | ok key =>
      cases key with
      | some key =>
          rw [missed] at found
          cases found
      | none =>
          have spec := @OidcJwtManagementAuthenticator.missed_spec Members sampleAuthenticator
            ⟨[], [], some []⟩ jwks missed
          exact spec.1

theorem servesKeys_of_servesSample {cfg : Calls Members} {l : Happens Members}
    (serves : servesSample cfg l = true) : sampleAuthenticator.ServesKeys cfg l := by
  cases l with
  | spawn => trivial
  | answer i event =>
      obtain ⟨c, answer⟩ := event
      cases c with
      | receive request number =>
          obtain ⟨endpoint, url⟩ := request
          cases endpoint with
          | discovery => trivial
          | jwks =>
              have same : answer = sampleDocument .jwks := of_decide_eq_true serves
              rintro response payload rfl status body
              refine sampleDocument_hasKeys ?_
              rw [← same]
              exact providerDocument_ok.mpr ⟨response, rfl, status, body⟩
      | monotonic | loadMetadata | storeMetadata | loadJwks | storeJwks | send | decode => trivial

theorem keyCache_usable_sample :
    ∃ cfg : Calls Members, acceptedCall cfg 0 = true ∧ sampleAuthenticator.KeyCacheUsable cfg := by
  have ran : (sampleAuthenticator.system.play (AuthenticatorWorld.choose 0 sampleDocument)
      servesSample (Config.initial (.start 0)) oneCall).map (fun cfg => acceptedCall cfg 0) =
        some true := by decide +kernel
  obtain ⟨cfg, played, accepted⟩ := Option.map_eq_some_iff.mp ran
  exact ⟨cfg, accepted, sampleAuthenticator.keyCache_usable (System.reachable_of_play
    (AuthenticatorWorld.choose_sound le_rfl) servesKeys_of_servesSample .initial played)⟩

end WebhookMonitor
