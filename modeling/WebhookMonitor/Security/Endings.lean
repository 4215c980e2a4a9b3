import WebhookMonitor.Security.Authenticator

/-!
# How a call of the authenticator ends

What a finished call of `authenticate` has seen decides how it ended.  Three
views of its history are enough: the key documents it looked into, the errors of
its exchanges with the provider, and its calls of `jwt.decode`.

* `entryFor` — the entry of a key document the loop stops at, and `selectKey_eq`;
* `Source`, `Observed`, `observed` — the three views;
* `Ending` — the five ways a call ends, each with what it has seen;
* `authenticate_ends` — every finished call ends in one of them.
-/

namespace WebhookMonitor

open Python Interaction

variable {κ : Type}

/-! ## The loop over the entries -/

/-- The loop does not pass over the entry. -/
def Stops (kid : Option Str) (alg : Str) (jwk : Members) : Bool :=
  kid.all (fun kid => (Members.get jwk "kid").eqStr kid) &&
    ((Members.get jwk "kty").eqStr "oct" || (Members.get jwk "alg").isNone ||
      (Members.get jwk "alg").eqStr alg)

/-- The entry the loop stops at. -/
def entryFor (kid : Option Str) (alg : Str) : List Json → Option Members
  | [] => none
  | .dict jwk :: rest => if Stops kid alg jwk then some jwk else entryFor kid alg rest
  | _ :: rest => entryFor kid alg rest

/-- What the loop makes of the entry it stops at. -/
def buildKey (jwt : PyJwt κ) (alg : Str) (jwk : Members) : Except AppError (Option κ) :=
  if (Members.get jwk "kty").eqStr "oct" then
    .error (.invalidManagementToken "Unsupported symmetric key")
  else
    match jwt.fromDict jwk alg with
    | .ok key => .ok (some key)
    | .error .pyJwtError => .error (.managementIdentityProviderUnavailable "JWKS key was invalid")
    | .error (.python e) => .error (.python e)

/-- The loop over an entry: it stops there or passes over it. -/
theorem selectKey_cons_dict (jwt : PyJwt κ) (kid : Option Str) (alg : Str) (jwk : Members)
    (rest : List Json) :
    selectKey jwt kid alg (.dict jwk :: rest) =
      if Stops kid alg jwk then buildKey jwt alg jwk else selectKey jwt kid alg rest := by
  have other : kid.any (fun kid => !(Members.get jwk "kid").eqStr kid) =
      !kid.all fun kid => (Members.get jwk "kid").eqStr kid := by
    cases kid <;> rfl
  rw [selectKey, other, Stops, buildKey]
  cases hkid : kid.all fun kid => (Members.get jwk "kid").eqStr kid with
  | false => rfl
  | true =>
      cases hoct : (Members.get jwk "kty").eqStr "oct" with
      | true => rfl
      | false =>
          cases hnone : (Members.get jwk "alg").isNone with
          | true => rfl
          | false => cases halg : (Members.get jwk "alg").eqStr alg <;> rfl

/-- The loop builds a key from the entry it stops at. -/
theorem selectKey_eq (jwt : PyJwt κ) (kid : Option Str) (alg : Str) (keys : List Json) :
    selectKey jwt kid alg keys =
      match entryFor kid alg keys with
      | none => .ok none
      | some jwk => buildKey jwt alg jwk := by
  induction keys with
  | nil => rfl
  | cons item rest ih =>
      cases item with
      | dict jwk =>
          rw [selectKey_cons_dict, entryFor, ih]
          cases Stops kid alg jwk <;> rfl
      | null | bool | int | float | str | list => exact ih

/-- The entry is one of the document. -/
theorem entryFor_spec {kid : Option Str} {alg : Str} {keys : List Json} {jwk : Members}
    (found : entryFor kid alg keys = some jwk) :
    Json.dict jwk ∈ keys ∧ Stops kid alg jwk = true := by
  induction keys with
  | nil => cases found
  | cons item rest ih =>
      have later : entryFor kid alg rest = some jwk →
          Json.dict jwk ∈ item :: rest ∧ Stops kid alg jwk = true := fun found =>
        ⟨List.mem_cons_of_mem _ (ih found).1, (ih found).2⟩
      cases item with
      | dict d =>
          rw [entryFor] at found
          cases hstops : Stops kid alg d with
          | true =>
              rw [hstops] at found
              cases found
              exact ⟨List.mem_cons_self, hstops⟩
          | false =>
              rw [hstops] at found
              exact later found
      | null | bool | int | float | str | list => exact later found

/-! ## What a history shows -/

/-- Where a key document came from. -/
inductive Source where
  | cached
  | fetched
  deriving DecidableEq, Repr

/-- What is raised, if anything is. -/
def raised {α : Type} : Except AppError α → Option AppError
  | .ok _ => none
  | .error e => some e

/-- What the history of a call shows: the key documents looked into, the errors of the
exchanges, and the calls of `jwt.decode`. -/
structure Observed (κ : Type) where
  documents : List (Source × Members)
  failures : List AppError
  decodings : List (DecodeRequest κ × Except JwtError Members)

/-- Nothing yet. -/
def Observed.nothing : Observed κ := ⟨[], [], []⟩

/-- One more document. -/
def Observed.look (seen : Observed κ) (source : Source) (jwks : Members) : Observed κ :=
  { seen with documents := seen.documents ++ [(source, jwks)] }

/-- One more error. -/
def Observed.fail (seen : Observed κ) (e : AppError) : Observed κ :=
  { seen with failures := seen.failures ++ [e] }

/-- One more call of `jwt.decode`. -/
def Observed.decode (seen : Observed κ) (request : DecodeRequest κ)
    (answer : Except JwtError Members) : Observed κ :=
  { seen with decodings := seen.decodings ++ [(request, answer)] }

namespace OidcJwtManagementAuthenticator

variable (self : OidcJwtManagementAuthenticator κ)

/-- The key document an event puts in the hands of the call. -/
def keyDocument : Event (AuthenticatorEffects κ) → Option (Source × Members)
  | ⟨.loadJwks now, cached⟩ => (cached.fresh now).map fun jwks => (.cached, jwks)
  | ⟨.receive ⟨.jwks, _⟩ _, answer⟩ =>
      (self.jwksOfAnswer answer).toOption.map fun jwks => (.fetched, jwks)
  | _ => none

/-- The error an event makes the call end with.  An empty cache does when the issuer
has no discovery document. -/
def failure : Event (AuthenticatorEffects κ) → Option AppError
  | ⟨.loadMetadata now, cached⟩ =>
      if (cached.fresh now).isNone && (metadataUrl self.config.issuer).isNone then
        some (.python .valueError)
      else none
  | ⟨.receive ⟨.discovery, _⟩ _, answer⟩ => raised (self.metadataOfAnswer answer)
  | ⟨.receive ⟨.jwks, _⟩ _, answer⟩ => raised (self.jwksOfAnswer answer)
  | _ => none

/-- The call of `jwt.decode` an event is. -/
def decoding : Event (AuthenticatorEffects κ) → Option (DecodeRequest κ × Except JwtError Members)
  | ⟨.decode request, answer⟩ => some (request, answer)
  | _ => none

/-- What a history shows. -/
def observed (h : List (Event (AuthenticatorEffects κ))) : Observed κ :=
  ⟨h.filterMap self.keyDocument, h.filterMap self.failure, h.filterMap decoding⟩

variable {self} {h : List (Event (AuthenticatorEffects κ))}

/-- What one more event shows. -/
theorem observed_snoc (e : Event (AuthenticatorEffects κ)) :
    self.observed (h ++ [e]) =
      ⟨(self.observed h).documents ++ (self.keyDocument e).toList,
        (self.observed h).failures ++ (self.failure e).toList,
        (self.observed h).decodings ++ (decoding e).toList⟩ := by
  simp only [observed, List.filterMap_append]
  rfl

/-- An event that shows nothing. -/
theorem observed_snoc_silent {e : Event (AuthenticatorEffects κ)}
    (noDocument : self.keyDocument e = none) (noFailure : self.failure e = none)
    (noDecoding : decoding e = none) :
    self.observed (h ++ [e]) = self.observed h := by
  rw [observed_snoc, noDocument, noFailure, noDecoding]
  simp

theorem observed_look {e : Event (AuthenticatorEffects κ)} {source : Source} {jwks : Members}
    (document : self.keyDocument e = some (source, jwks)) (noFailure : self.failure e = none)
    (noDecoding : decoding e = none) :
    self.observed (h ++ [e]) = (self.observed h).look source jwks := by
  rw [observed_snoc, document, noFailure, noDecoding]
  simp [Observed.look]

theorem observed_fail {e : Event (AuthenticatorEffects κ)} {error : AppError}
    (noDocument : self.keyDocument e = none) (failed : self.failure e = some error)
    (noDecoding : decoding e = none) :
    self.observed (h ++ [e]) = (self.observed h).fail error := by
  rw [observed_snoc, noDocument, failed, noDecoding]
  simp [Observed.fail]

theorem observed_decode (request : DecodeRequest κ) (answer : Except JwtError Members) :
    self.observed (h ++ [⟨.decode request, answer⟩]) =
      (self.observed h).decode request answer := by
  rw [observed_snoc]
  simp [keyDocument, failure, decoding, Observed.decode]

/-! ## What each method shows -/

/-- What the outcome of `p` and the history it ends with show, whatever the answers. -/
def Shows {α : Type} (self : OidcJwtManagementAuthenticator κ)
    (post : Observed κ → Except AppError α → Prop) (p : Authentication κ α)
    (h : List (Event (AuthenticatorEffects κ))) : Prop :=
  Meets (fun _ _ => True) (fun h r => post (self.observed h) r) p h

theorem Shows.mono {α : Type} {post post' : Observed κ → Except AppError α → Prop}
    {p : Authentication κ α} (shows : self.Shows post p h)
    (weaker : ∀ seen r, post seen r → post' seen r) : self.Shows post' p h :=
  meets_mono (fun _ _ _ => trivial) (fun _ _ => weaker _ _) shows

/-- A sequence: what `p` returns is handed on with what it has shown. -/
theorem Shows.bind {α β : Type} {mid : Observed κ → Except AppError α → Prop}
    {post : Observed κ → Except AppError β → Prop} {p : Authentication κ α}
    {f : α → Authentication κ β} (first : self.Shows mid p h)
    (returns : ∀ h a, mid (self.observed h) (.ok a) → self.Shows post (f a) h)
    (raises : ∀ seen e, mid seen (.error e) → post seen (.error e)) :
    self.Shows post (p >>= f) h := by
  refine meets_bind.mpr (meets_mono (fun _ _ _ => trivial) ?_ first)
  intro h r shown
  cases r with
  | ok a => exact returns h a shown
  | error e => exact raises _ e shown

/-- A discovery document is had without a trace, or its error ends the call. -/
def MetadataShown (seen : Observed κ) (seen' : Observed κ) : Except AppError OidcMetadata → Prop
  | .ok _ => seen' = seen
  | .error e => seen' = seen.fail e

/-- A key document is looked into, or an error ends the call. -/
def JwksShown (refresh : Bool) (seen : Observed κ) (seen' : Observed κ) :
    Except AppError Members → Prop
  | .ok jwks => ∃ source, (refresh = true → source = .fetched) ∧ seen' = seen.look source jwks
  | .error e => seen' = seen.fail e

theorem metadataDocument_shows :
    self.Shows (MetadataShown (self.observed h)) self.metadataDocument h := by
  rw [metadataDocument_eq]
  refine ⟨trivial, fun now => ⟨trivial, fun cached => ?_⟩⟩
  have read : self.observed (h ++ [⟨.monotonic, now⟩]) = self.observed h :=
    observed_snoc_silent rfl rfl rfl
  cases hfresh : Cached.fresh cached now with
  | some metadata =>
      have kept : self.failure ⟨.loadMetadata now, cached⟩ = none := by
        simp [failure, hfresh]
      simp only [hfresh]
      exact (observed_snoc_silent rfl kept rfl).trans read
  | none =>
      simp only [hfresh]
      cases hurl : metadataUrl self.config.issuer with
      | none =>
          have failed : self.failure ⟨.loadMetadata now, cached⟩ =
              some (.python .valueError) := by
            simp [failure, hfresh, hurl]
          rw [fetchMetadata_of_none self hurl]
          exact (observed_fail rfl failed rfl).trans (by rw [read])
      | some url =>
          have kept : self.failure ⟨.loadMetadata now, cached⟩ = none := by
            simp [failure, hurl]
          rw [fetchMetadata_eq self hurl]
          refine ⟨trivial, fun number => ⟨trivial, fun answer => ?_⟩⟩
          have sent : self.observed (h ++ [⟨.monotonic, now⟩] ++ [⟨.loadMetadata now, cached⟩] ++
              [⟨.send ⟨.discovery, url⟩, number⟩]) = self.observed h :=
            (observed_snoc_silent rfl rfl rfl).trans
              ((observed_snoc_silent rfl kept rfl).trans read)
          cases hmetadata : self.metadataOfAnswer answer with
          | ok metadata =>
              simp only [hmetadata]
              refine ⟨trivial, fun _ => ?_⟩
              have received : self.failure ⟨.receive ⟨.discovery, url⟩ number, answer⟩ = none := by
                simp [failure, hmetadata, raised]
              exact (observed_snoc_silent rfl rfl rfl).trans
                ((observed_snoc_silent rfl received rfl).trans sent)
          | error e =>
              have failed : self.failure ⟨.receive ⟨.discovery, url⟩ number, answer⟩ =
                  some e := by
                simp [failure, hmetadata, raised]
              simp only [hmetadata]
              exact (observed_fail rfl failed rfl).trans (by rw [sent])

theorem requestJwks_shows (now : Monotonic) (metadata : OidcMetadata) :
    self.Shows (JwksShown true (self.observed h)) (self.requestJwks now metadata) h := by
  refine ⟨trivial, fun number => ⟨trivial, fun answer => ?_⟩⟩
  have sent : self.observed (h ++ [⟨.send ⟨.jwks, metadata.jwksUri⟩, number⟩]) =
      self.observed h := observed_snoc_silent rfl rfl rfl
  cases hjwks : self.jwksOfAnswer answer with
  | ok jwks =>
      simp only [hjwks]
      refine ⟨trivial, fun _ => ⟨.fetched, fun _ => rfl, ?_⟩⟩
      have document : self.keyDocument ⟨.receive ⟨.jwks, metadata.jwksUri⟩ number, answer⟩ =
          some (.fetched, jwks) := by
        simp [keyDocument, hjwks, Except.toOption]
      have received : self.failure ⟨.receive ⟨.jwks, metadata.jwksUri⟩ number, answer⟩ = none := by
        simp [failure, hjwks, raised]
      exact (observed_snoc_silent rfl rfl rfl).trans
        ((observed_look document received rfl).trans (by rw [sent]))
  | error e =>
      have failed : self.failure ⟨.receive ⟨.jwks, metadata.jwksUri⟩ number, answer⟩ = some e := by
        simp [failure, hjwks, raised]
      have document : self.keyDocument ⟨.receive ⟨.jwks, metadata.jwksUri⟩ number, answer⟩ =
          none := by
        simp [keyDocument, hjwks, Except.toOption]
      simp only [hjwks]
      exact (observed_fail document failed rfl).trans (by rw [sent])

theorem fetchJwks_shows (now : Monotonic) :
    self.Shows (JwksShown true (self.observed h)) (self.fetchJwks now) h := by
  rw [fetchJwks_eq]
  refine metadataDocument_shows.bind ?_ fun _ _ shown => shown
  intro h' metadata shown
  rw [← show self.observed h' = self.observed h from shown]
  exact requestJwks_shows now metadata

theorem jwksDocument_shows (refresh : Bool) :
    self.Shows (JwksShown refresh (self.observed h)) (self.jwksDocument refresh) h := by
  rw [jwksDocument_eq]
  refine ⟨trivial, fun now => ?_⟩
  have read : self.observed (h ++ [⟨.monotonic, now⟩]) = self.observed h :=
    observed_snoc_silent rfl rfl rfl
  cases refresh with
  | true =>
      rw [← read]
      exact fetchJwks_shows now
  | false =>
      refine ⟨trivial, fun cached => ?_⟩
      cases hfresh : Cached.fresh cached now with
      | some jwks =>
          have document : self.keyDocument ⟨.loadJwks now, cached⟩ = some (.cached, jwks) := by
            simp [keyDocument, hfresh]
          simp only [hfresh]
          exact ⟨.cached, nofun, (observed_look document rfl rfl).trans (by rw [read])⟩
      | none =>
          have document : self.keyDocument ⟨.loadJwks now, cached⟩ = none := by
            simp [keyDocument, hfresh]
          simp only [hfresh]
          have loaded : self.observed (h ++ [⟨.monotonic, now⟩] ++ [⟨.loadJwks now, cached⟩]) =
              self.observed h := (observed_snoc_silent document rfl rfl).trans read
          refine Shows.mono (h := h ++ [⟨.monotonic, now⟩] ++ [⟨.loadJwks now, cached⟩])
            (fetchJwks_shows now) ?_
          rw [loaded]
          intro seen r shown
          cases r with
          | ok jwks =>
              obtain ⟨source, -, look⟩ := shown
              exact ⟨source, nofun, look⟩
          | error e => exact shown

/-! ## Endings -/

variable (self)

/-- No entry of the documents is for the token. -/
def Misses (token : BearerToken) (documents : List (Source × Members)) : Prop :=
  ∀ d ∈ documents, signingKeyOf self.jwt token.kid token.alg d.2 = .ok none

/-- The ways a call ends, each with what it has seen. -/
inductive Ending (credentials : Option HTTPAuthorizationCredentials) :
    Observed κ → Except AppError ManagementPrincipal → Prop where
  /-- The checks of the header fail. -/
  | refused {e : AppError} (failed : self.checkToken credentials = .error e) :
      Ending credentials .nothing (.error e)
  /-- An exchange with the provider fails. -/
  | cutOff {token : BearerToken} {documents : List (Source × Members)} {e : AppError}
      (checked : self.checkToken credentials = .ok token) (missed : self.Misses token documents) :
      Ending credentials ⟨documents, [e], []⟩ (.error e)
  /-- A key document, or its entry for the token, is bad. -/
  | badKey {token : BearerToken} {documents : List (Source × Members)} {source : Source}
      {jwks : Members} {e : AppError} (checked : self.checkToken credentials = .ok token)
      (missed : self.Misses token documents)
      (failed : signingKeyOf self.jwt token.kid token.alg jwks = .error e) :
      Ending credentials ⟨documents ++ [(source, jwks)], [], []⟩ (.error e)
  /-- No document has an entry for the token. -/
  | unknownKey {token : BearerToken} {documents : List (Source × Members)}
      (checked : self.checkToken credentials = .ok token) (missed : self.Misses token documents)
      (fetched : token.kid ≠ none → ∃ jwks, (.fetched, jwks) ∈ documents) :
      Ending credentials ⟨documents, [], []⟩
        (.error (.invalidManagementToken "Unknown signing key"))
  /-- The token is decoded with a key of the last document. -/
  | decoded {token : BearerToken} {documents : List (Source × Members)} {source : Source}
      {jwks : Members} {key : κ} {answer : Except JwtError Members}
      (checked : self.checkToken credentials = .ok token) (missed : self.Misses token documents)
      (found : signingKeyOf self.jwt token.kid token.alg jwks = .ok (some key)) :
      Ending credentials
        ⟨documents ++ [(source, jwks)], [], [(self.config.decodeRequest token.token key, answer)]⟩
        (verifiedPrincipal self.config answer)

variable {self}

/-- What a lookup of a key shows. -/
def KeyShown (self : OidcJwtManagementAuthenticator κ) (token : BearerToken) (refresh : Bool)
    (seen seen' : Observed κ) : Except AppError (Option κ) → Prop
  | .ok key => ∃ source jwks, (refresh = true → source = .fetched) ∧ seen' = seen.look source jwks ∧
      signingKeyOf self.jwt token.kid token.alg jwks = .ok key
  | .error e => seen' = seen.fail e ∨ ∃ source jwks, seen' = seen.look source jwks ∧
      signingKeyOf self.jwt token.kid token.alg jwks = .error e

theorem signingKeyFor_shows (token : BearerToken) (refresh : Bool) :
    self.Shows (self.KeyShown token refresh (self.observed h))
      (self.signingKeyFor token.kid token.alg refresh) h := by
  refine (jwksDocument_shows refresh).bind ?_ fun _ _ shown => .inl shown
  rintro h' jwks ⟨source, fetched, look⟩
  refine meets_ofExcept.mpr ?_
  cases hkey : signingKeyOf self.jwt token.kid token.alg jwks with
  | ok key => exact ⟨source, jwks, fetched, look, hkey⟩
  | error e => exact .inr ⟨source, jwks, look, hkey⟩

/-- Once a key is found the call ends with what `jwt.decode` answers. -/
theorem verify_shows {credentials : Option HTTPAuthorizationCredentials} {token : BearerToken}
    {documents : List (Source × Members)} {source : Source} {jwks : Members} {key : κ}
    (checked : self.checkToken credentials = .ok token) (missed : self.Misses token documents)
    (found : signingKeyOf self.jwt token.kid token.alg jwks = .ok (some key))
    (seen : self.observed h = ⟨documents ++ [(source, jwks)], [], []⟩) :
    self.Shows (self.Ending credentials) (self.verify token (some key)) h := by
  rw [verify_some]
  refine ⟨trivial, fun answer => meets_ofExcept.mpr ?_⟩
  rw [observed_decode, seen]
  exact .decoded checked missed found

theorem authenticateToken_ends {credentials : Option HTTPAuthorizationCredentials}
    {token : BearerToken} (checked : self.checkToken credentials = .ok token)
    (fresh : self.observed h = .nothing) :
    self.Shows (self.Ending credentials) (self.authenticateToken token) h := by
  have atFirst : self.Misses token [] := fun _ mem => absurd mem List.not_mem_nil
  refine (signingKeyFor_shows token false).bind ?_ ?_
  · rintro h' key ⟨source, jwks, -, look, hkey⟩
    rw [fresh] at look
    cases key with
    | some key =>
        -- the first lookup has found a key
        exact verify_shows checked atFirst hkey look
    | none =>
        have missed : self.Misses token [(source, jwks)] := by
          intro d mem
          rw [List.mem_singleton.mp mem]
          exact hkey
        cases hkid : token.kid with
        | none =>
            have ends : self.Shows (self.Ending credentials) (self.verify token none) h' := by
              change self.Ending credentials (self.observed h')
                (.error (.invalidManagementToken "Unknown signing key"))
              rw [look]
              exact .unknownKey checked missed fun some => absurd hkid some
            simpa [hkid] using ends
        | some kid =>
            -- a key may have been added to the document since: it is fetched again
            have second : self.Shows (self.Ending credentials)
                (self.signingKeyFor token.kid token.alg true >>= self.verify token) h' := by
              refine (signingKeyFor_shows token true).bind ?_ ?_
              · rintro h'' key ⟨source', jwks', fetched, look', hkey'⟩
                rw [look] at look'
                cases key with
                | some key => exact verify_shows checked missed hkey' look'
                | none =>
                    change self.Ending credentials (self.observed h'')
                      (.error (.invalidManagementToken "Unknown signing key"))
                    rw [look', fetched rfl]
                    refine .unknownKey checked ?_ fun _ =>
                      ⟨jwks', List.mem_append_right _ (List.mem_singleton_self _)⟩
                    intro d mem
                    rcases List.mem_append.mp mem with mem | mem
                    · exact missed d mem
                    · rw [List.mem_singleton.mp mem]
                      exact hkey'
              · rw [look]
                rintro seen e (rfl | ⟨source', jwks', rfl, failed⟩)
                · exact .cutOff checked missed
                · exact .badKey checked missed failed
            simpa [hkid] using second
  · rw [fresh]
    rintro seen e (rfl | ⟨source, jwks, rfl, failed⟩)
    · exact .cutOff checked atFirst
    · exact .badKey checked atFirst failed

/-- Every finished call ends in one of the five ways. -/
theorem authenticate_ends (self : OidcJwtManagementAuthenticator κ)
    (credentials : Option HTTPAuthorizationCredentials) :
    self.Shows (self.Ending credentials) (self.authenticate credentials) [] := by
  rw [authenticate]
  cases hchecked : self.checkToken credentials with
  | error e => exact .refused hchecked
  | ok token => exact authenticateToken_ends hchecked rfl

theorem ending_of_trace {credentials : Option HTTPAuthorizationCredentials}
    {es : List (Event (AuthenticatorEffects κ))} {q : Authentication κ ManagementPrincipal}
    {r : Except AppError ManagementPrincipal} (trace : Trace (self.authenticate credentials) es q)
    (ended : q.outcome = some r) : self.Ending credentials (self.observed es) r := by
  have := (self.authenticate_ends credentials).post_of_trace trace ended
  rwa [List.nil_append] at this

end OidcJwtManagementAuthenticator

end WebhookMonitor
