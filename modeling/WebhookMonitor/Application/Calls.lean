import Mathlib.Data.Multiset.OrderedMonoid
import WebhookMonitor.Interaction.Budget
import WebhookMonitor.Persistence.Deliveries
import WebhookMonitor.Persistence.Postgres
import WebhookMonitor.Security.Authenticator

/-!
# What the application calls

The calls of all routes together: those of the authenticator, those of the services,
the ones to the delivery store, and the queries of the journal.

* `StoreCall` — the delivery store in either backend.  In memory an attempt is added in
  one step; in PostgreSQL by the statements of `PostgresDeliveryStore.add`;
* `JournalQuery` — the reading half of `RecoveryActionStore`;
* `ApplicationCall` — all of them, with the four embeddings, and what a history shows of
  each;
* `CallKind` — what a call takes, for the budgets of the routes;
* `memoryAdd`, `postgresAdd` — `DeliveryStore.add` as a program, in the two backends.

A query is one step, and the answer to it is what its method returns or raises.
-/

namespace WebhookMonitor

open Python Interaction

/-! ## The delivery store -/

/-- The calls to the delivery store. -/
inductive StoreCall where
  /-- `self._attempts.appendleft(attempt)`. -/
  | appendLeft (attempt : DeliveryAttempt)
  /-- A statement of `PostgresDeliveryStore.add`. -/
  | statement (c : SqlCall)
  | getAttempt (attemptId : UUID)
  | listRecent
  | listAttemptsPage (limit : ℕ) (after : Option DeliveryAttemptKeyset)

@[reducible] def StoreCall.Answer : StoreCall → Type
  | .appendLeft _ => Unit
  | .statement c => c.Answer
  | .getAttempt _ => Except AppError (Option DeliveryAttempt)
  | .listRecent | .listAttemptsPage .. => Except AppError (List DeliveryAttempt)

/-- The interface of the delivery store. -/
@[reducible] def StoreEffects : Interface := ⟨StoreCall, StoreCall.Answer⟩

/-- The attempts an event of the store returns. -/
def returnedAttempts : Event StoreEffects → List DeliveryAttempt
  | ⟨.getAttempt _, .ok (some attempt)⟩ => [attempt]
  | ⟨.listRecent, .ok attempts⟩ => attempts
  | ⟨.listAttemptsPage .., .ok attempts⟩ => attempts
  | _ => []

/-- A call that only reads. -/
def StoreCall.isQuery : StoreCall → Bool
  | .getAttempt _ | .listRecent | .listAttemptsPage .. => true
  | _ => false

/-- The statements of an `add` among the calls to the store. -/
def statements : Embedding Sql StoreEffects := ⟨.statement, fun _ => Equiv.refl _⟩

/-! ## The queries of the journal -/

/-- `get` and `list_recent` of `RecoveryActionStore`. -/
inductive JournalQuery where
  | get (actionId : UUID)
  | listRecent (limit : ℕ) (after : Option RecoveryActionKeyset)

@[reducible] def JournalQuery.Answer : JournalQuery → Type
  | .get _ => Except AppError (Option RecoveryAction)
  | .listRecent .. => Except AppError (List RecoveryAction)

/-- The interface of the queries. -/
@[reducible] def JournalEffects : Interface := ⟨JournalQuery, JournalQuery.Answer⟩

/-- The actions an event of the journal returns. -/
def returnedActions : Event JournalEffects → List RecoveryAction
  | ⟨.get _, .ok (some action)⟩ => [action]
  | ⟨.listRecent .., .ok actions⟩ => actions
  | _ => []

/-! ## The application -/

/-- What `readiness_check` raises. -/
inductive ReadinessFailure where
  | deliveryStoreReadinessError
  | other (e : AppError)

/-- The calls of the routes. -/
inductive ApplicationCall (κ : Type) where
  | authenticator (c : AuthenticatorCall κ)
  | service (c : Call)
  | store (c : StoreCall)
  | journal (c : JournalQuery)
  | readinessCheck

@[reducible] def ApplicationCall.Answer {κ : Type} : ApplicationCall κ → Type
  | .authenticator c => c.Answer
  | .service c => c.Answer
  | .store c => c.Answer
  | .journal c => c.Answer
  | .readinessCheck => Except ReadinessFailure Unit

/-- The interface of the application. -/
@[reducible] def ApplicationEffects (κ : Type) : Interface :=
  ⟨ApplicationCall κ, ApplicationCall.Answer⟩

/-- A program of a route. -/
abbrev Handler (κ α : Type) := Program (ApplicationEffects κ) AppError α

variable {κ : Type}

namespace ApplicationCall

/-- The calls of the authenticator among those of the application. -/
def authentication (κ : Type) : Embedding (AuthenticatorEffects κ) (ApplicationEffects κ) :=
  ⟨.authenticator, fun _ => Equiv.refl _⟩

/-- The calls of the services. -/
def services (κ : Type) : Embedding Effects (ApplicationEffects κ) :=
  ⟨.service, fun _ => Equiv.refl _⟩

/-- The calls to the delivery store. -/
def storage (κ : Type) : Embedding StoreEffects (ApplicationEffects κ) :=
  ⟨.store, fun _ => Equiv.refl _⟩

end ApplicationCall

/-- A call of the application, made by itself. -/
def ask (c : ApplicationCall κ) : Handler κ c.Answer :=
  Program.perform (I := ApplicationEffects κ) c

theorem ask_bind {α : Type} (c : ApplicationCall κ) (f : c.Answer → Handler κ α) :
    ask c >>= f = (.call c f : Handler κ α) := rfl

/-! ## Kinds of calls -/

/-- What a call takes. -/
inductive CallKind where
  /-- `time.monotonic()`. -/
  | monotonic
  /-- Reading or replacing a cached document of the identity provider. -/
  | documentCache
  /-- A GET of the identity provider: issued. -/
  | providerRequest
  /-- And answered. -/
  | providerAnswer
  /-- `jwt.decode`. -/
  | tokenDecoding
  /-- `datetime.now`. -/
  | clock
  /-- `uuid4()`. -/
  | identifier
  | githubGet
  | githubPost
  /-- One of the two writing methods of the in-memory journal. -/
  | journalOperation
  /-- A statement of those of the PostgreSQL journal. -/
  | journalStatement
  | journalQuery
  /-- `add` of the in-memory store. -/
  | deliveryOperation
  /-- A statement of that of the PostgreSQL store. -/
  | deliveryStatement
  | deliveryQuery
  | readinessCheck
  deriving DecidableEq, Repr

def AuthenticatorCall.kind : AuthenticatorCall κ → CallKind
  | .monotonic => .monotonic
  | .loadMetadata _ | .storeMetadata .. | .loadJwks _ | .storeJwks .. => .documentCache
  | .send _ => .providerRequest
  | .receive .. => .providerAnswer
  | .decode _ => .tokenDecoding

def Call.kind : Call → CallKind
  | .now => .clock
  | .uuid4 => .identifier
  | .httpGet .. => .githubGet
  | .httpPost _ => .githubPost
  | .appendLeft _ | .finalizeEntry _ => .journalOperation
  | .insert _ | .updateInitiated .. | .selectState _ => .journalStatement

def StoreCall.kind : StoreCall → CallKind
  | .appendLeft _ => .deliveryOperation
  | .statement _ => .deliveryStatement
  | .getAttempt _ | .listRecent | .listAttemptsPage .. => .deliveryQuery

def ApplicationCall.kind : ApplicationCall κ → CallKind
  | .authenticator c => c.kind
  | .service c => c.kind
  | .store c => c.kind
  | .journal _ => .journalQuery
  | .readinessCheck => .readinessCheck

/-- No run of the program makes more calls of a kind than the budget has. -/
abbrev CallsWithin {I : Interface} {ε α : Type} (kind : I.Call → CallKind)
    (budget : Multiset CallKind) (p : Program I ε α) : Prop :=
  CostsAtMost (fun c => ({kind c} : Multiset CallKind)) budget p

/-- A call of a kind the budget has. -/
theorem singleton_add_le (kind : CallKind) (budget : Multiset CallKind) :
    {kind} + budget ≤ kind ::ₘ budget :=
  le_of_eq (Multiset.singleton_add kind budget)

/-- The rule of a call. -/
theorem callsWithin_call {I : Interface} {ε α : Type} {kind : I.Call → CallKind}
    {n m : Multiset CallKind} {c : I.Call} {k : I.Answer c → Program I ε α}
    (takes : {kind c} + m ≤ n) (rest : ∀ a, CallsWithin kind m (k a)) :
    CallsWithin kind n (.call c k) :=
  ⟨m, takes, rest⟩

/-- What a history has spent is the kinds of its calls. -/
theorem spent_kind {I : Interface} (kind : I.Call → CallKind) (es : List (Event I)) :
    spent (fun c => ({kind c} : Multiset CallKind)) es =
      (es.map fun e => kind e.call : List CallKind) := by
  induction es with
  | nil => rfl
  | cons e es ih =>
      rw [spent_cons, ih, List.map_cons, ← Multiset.cons_coe, Multiset.singleton_add]

/-! ## What a history of the application shows -/

/-- The calls a request has made so far, with their answers. -/
abbrev ApplicationHistory (κ : Type) := List (Event (ApplicationEffects κ))

def authenticatorEvent :
    Event (ApplicationEffects κ) → Option (Event (AuthenticatorEffects κ))
  | ⟨.authenticator c, a⟩ => some ⟨c, a⟩
  | _ => none

def serviceEvent : Event (ApplicationEffects κ) → Option (Event Effects)
  | ⟨.service c, a⟩ => some ⟨c, a⟩
  | _ => none

def storeEvent : Event (ApplicationEffects κ) → Option (Event StoreEffects)
  | ⟨.store c, a⟩ => some ⟨c, a⟩
  | _ => none

def journalEvent : Event (ApplicationEffects κ) → Option (Event JournalEffects)
  | ⟨.journal c, a⟩ => some ⟨c, a⟩
  | _ => none

/-- What the authenticator has seen. -/
def authenticatorHistory (h : ApplicationHistory κ) : List (Event (AuthenticatorEffects κ)) :=
  h.filterMap authenticatorEvent

/-- What the services have seen. -/
def serviceHistory (h : ApplicationHistory κ) : History := h.filterMap serviceEvent

/-- What the delivery store has answered. -/
def storeHistory (h : ApplicationHistory κ) : List (Event StoreEffects) := h.filterMap storeEvent

/-- What the journal has answered. -/
def journalHistory (h : ApplicationHistory κ) : List (Event JournalEffects) :=
  h.filterMap journalEvent

/-- The attempts the delivery store has returned. -/
def shownAttempts (h : ApplicationHistory κ) : List DeliveryAttempt :=
  (storeHistory h).flatMap returnedAttempts

/-- The actions the journal has returned. -/
def shownActions (h : ApplicationHistory κ) : List RecoveryAction :=
  (journalHistory h).flatMap returnedActions

section Append

variable (h h' : ApplicationHistory κ)

@[simp] theorem authenticatorHistory_append :
    authenticatorHistory (h ++ h') = authenticatorHistory h ++ authenticatorHistory h' :=
  List.filterMap_append

@[simp] theorem serviceHistory_append :
    serviceHistory (h ++ h') = serviceHistory h ++ serviceHistory h' := List.filterMap_append

@[simp] theorem storeHistory_append :
    storeHistory (h ++ h') = storeHistory h ++ storeHistory h' := List.filterMap_append

@[simp] theorem journalHistory_append :
    journalHistory (h ++ h') = journalHistory h ++ journalHistory h' := List.filterMap_append

@[simp] theorem shownAttempts_append :
    shownAttempts (h ++ h') = shownAttempts h ++ shownAttempts h' := by
  rw [shownAttempts, storeHistory_append, List.flatMap_append]
  rfl

@[simp] theorem shownActions_append :
    shownActions (h ++ h') = shownActions h ++ shownActions h' := by
  rw [shownActions, journalHistory_append, List.flatMap_append]
  rfl

end Append

/-- What the services have seen was an event of the history. -/
theorem split_of_mem_serviceHistory {h : ApplicationHistory κ} {c : Call} {a : c.Answer}
    (mem : (⟨c, a⟩ : Event Effects) ∈ serviceHistory h) :
    ∃ before after, h = before ++ ⟨.service c, a⟩ :: after := by
  obtain ⟨⟨c', a'⟩, there, isService⟩ := List.mem_filterMap.mp mem
  cases c' with
  | service c' =>
      cases isService
      exact List.append_of_mem there
  | authenticator | store | journal | readinessCheck => cases isService

section Lifted

open ApplicationCall Embedding

@[simp] theorem serviceHistory_authentication (es : List (Event (AuthenticatorEffects κ))) :
    serviceHistory (es.map (authentication κ).event) = [] :=
  filterMap_event_of_none _ (fun _ => rfl) es

@[simp] theorem serviceHistory_services (es : History) :
    serviceHistory (es.map (services κ).event) = es := filterMap_event _ (fun _ => rfl) es

@[simp] theorem serviceHistory_storage (es : List (Event StoreEffects)) :
    serviceHistory (es.map (storage κ).event) = [] :=
  filterMap_event_of_none _ (fun _ => rfl) es

@[simp] theorem storeHistory_authentication (es : List (Event (AuthenticatorEffects κ))) :
    storeHistory (es.map (authentication κ).event) = [] :=
  filterMap_event_of_none _ (fun _ => rfl) es

@[simp] theorem storeHistory_services (es : History) :
    storeHistory (es.map (services κ).event) = [] :=
  filterMap_event_of_none _ (fun _ => rfl) es

@[simp] theorem storeHistory_storage (es : List (Event StoreEffects)) :
    storeHistory (es.map (storage κ).event) = es := filterMap_event _ (fun _ => rfl) es

@[simp] theorem authenticatorHistory_authentication (es : List (Event (AuthenticatorEffects κ))) :
    authenticatorHistory (es.map (authentication κ).event) = es :=
  filterMap_event _ (fun _ => rfl) es

@[simp] theorem authenticatorHistory_services (es : History) :
    authenticatorHistory (es.map (services κ).event) = [] :=
  filterMap_event_of_none _ (fun _ => rfl) es

@[simp] theorem authenticatorHistory_storage (es : List (Event StoreEffects)) :
    authenticatorHistory (es.map (storage κ).event) = [] :=
  filterMap_event_of_none _ (fun _ => rfl) es

end Lifted

/-! ## Adding an attempt -/

/-- `DeliveryStore.add` of a backend. -/
abbrev AddAttempt := DeliveryAttempt → Program StoreEffects AppError Unit

/-- `InMemoryDeliveryStore.add`. -/
def memoryAdd : AddAttempt := fun attempt =>
  Program.perform (I := StoreEffects) (.appendLeft attempt)

/-- `PostgresDeliveryStore.add`. -/
def postgresAdd : AddAttempt := fun attempt => statements.lift (PostgresDeliveryStore.add attempt)

end WebhookMonitor
