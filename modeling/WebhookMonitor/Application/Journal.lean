import WebhookMonitor.Application.Redeliveries

/-!
# The journal inside the application

Redeliveries share the journal and the generator of identifiers with the requests of the
other routes.  Every row goes back to one request, which the dependency has let through,
and reports what became of its POST.

* `shownBy` — what each request shows of the journal;
* `reachable_applicationCoherent` — the journal and all requests are coherent;
* `Intent` — what a row says of its request, whatever becomes of it;
* `journal_audits` — what a row tells.
-/

namespace WebhookMonitor

open Python Interaction ApplicationCall

variable {κ : Type}

/-! ## Coherence -/

/-- What an event of the application shows of the services. -/
def shownBy {β : Type} (view : Event Effects → Option β) (e : Event (ApplicationEffects κ)) :
    Option β :=
  (serviceEvent e).bind view

theorem filterMap_shownBy {β : Type} (view : Event Effects → Option β) (h : ApplicationHistory κ) :
    h.filterMap (shownBy view) = (serviceHistory h).filterMap view :=
  List.filterMap_filterMap.symm

/-- The journal and all requests. -/
def ApplicationCoherent {deliveries : DeliveryBackend} {journal : JournalBackend}
    (cfg : Requests κ deliveries journal) : Prop :=
  Coherent (journal.rows cfg.world.journal) (journal.issued cfg.world.journal)
    (cfg.shown (shownBy issuedOf)) (cfg.shown (shownBy storedOf))
    (cfg.shown (shownBy finalizationOf))

section Reachable

variable {self : Application κ} {deliveries : DeliveryBackend} {journal : JournalBackend}
  {ok : Requests κ deliveries journal → Label (ApplicationEffects κ) Request → Prop}
  {now : Monotonic} {cfg : Requests κ deliveries journal}

/-- What is stored is stored by a redelivery. -/
theorem isRedelivery_of_stores {c : Call} {a : c.Answer} {s : Stored}
    (shows : storedOf ⟨c, a⟩ = some s) : c.isRedelivery = true := by
  cases c with
  | now | uuid4 | httpGet => cases shows
  | httpPost | appendLeft | finalizeEntry | insert | updateInitiated | selectState => rfl

/-- And so it is finalized. -/
theorem isRedelivery_of_finalizes {c : Call} {a : c.Answer} {r : FinalizeRequest}
    (shows : finalizationOf ⟨c, a⟩ = some r) : c.isRedelivery = true := by
  cases c with
  | now | uuid4 | httpGet => cases shows
  | httpPost | appendLeft | finalizeEntry | insert | updateInitiated | selectState => rfl

/-- The step lemma, for a call of the services. -/
theorem applicationCoherent_service {i : ℕ} {request : Request} {h : ApplicationHistory κ}
    {c : Call} {k : c.Answer → Handler κ Answer} {a : c.Answer} {world : journal.World}
    (coherent : ApplicationCoherent cfg)
    (pending : cfg.threads i = some ⟨request, h, .call (.service c) k⟩)
    (may : (self.over deliveries journal).MayAsk deliveries.MayAdd request h (.service c))
    (answered : journal.answers cfg.world.journal c a world) :
    ApplicationCoherent (cfg.set { cfg.world with journal := world } i
      ⟨request, h ++ [⟨.service c, a⟩], k a⟩) := by
  have shown : ∀ {β : Type} (view : Event Effects → Option β),
      cfg.shown (shownBy view) i = (serviceHistory h).filterMap view := fun view =>
    (Config.shown_of_running pending).trans (filterMap_shownBy view h)
  rw [ApplicationCoherent, Config.set_world]
  -- one case for each step of a journal
  have jstep := journal.steps coherent.distinct answered
  change Coherent (journal.rows world) (journal.issued world) _ _ _
  generalize journal.rows world = rows' at jstep ⊢
  generalize journal.issued world = out' at jstep ⊢
  have view_eq : ∀ {β : Type} (view : Event Effects → Option β),
      shownBy view (⟨.service c, a⟩ : Event (ApplicationEffects κ)) = view ⟨c, a⟩ := fun _ => rfl
  generalize he : (⟨c, a⟩ : Event Effects) = e at jstep view_eq
  cases jstep with
  | @issue id fresh =>
      rw [Config.shown_answer_some (b := id) pending (view_eq _),
        Config.shown_answer_none pending (view_eq _), Config.shown_answer_none pending (view_eq _)]
      exact coherent.issue fresh i
  | store shows denotes kept =>
      obtain ⟨-, -, -, redelivery, -, -, -, may⟩ :=
        mayCall_of_mayAsk may (isRedelivery_of_stores (a := a) (he ▸ shows))
      obtain ⟨none_stored, none_finalized, hid, initiated⟩ := may.store (he ▸ shows)
      obtain ⟨not_issued, not_finalized⟩ := shows_store shows
      rw [Config.shown_answer_none pending ((view_eq _).trans not_issued),
        Config.shown_answer_some pending ((view_eq _).trans shows),
        Config.shown_answer_none pending ((view_eq _).trans not_finalized)]
      refine coherent.store ?_ ((shown _).trans none_stored) ((shown _).trans none_finalized)
        (denotes.state.trans initiated) kept
      rw [shown, denotes.actionId]
      exact hid
  | finalize shows present named initiated terminal denotes =>
      obtain ⟨-, -, -, redelivery, -, -, -, may⟩ :=
        mayCall_of_mayAsk may (isRedelivery_of_finalizes (a := a) (he ▸ shows))
      obtain ⟨entry, submission, journalled, -, hid, -, none_finalized⟩ :=
        may.finalize (he ▸ shows)
      obtain ⟨not_issued, not_stored⟩ := shows_finalization shows
      rw [Config.shown_answer_none pending ((view_eq _).trans not_issued),
        Config.shown_answer_none pending ((view_eq _).trans not_stored),
        Config.shown_answer_some pending ((view_eq _).trans shows)]
      exact coherent.finalize ((shown _).trans journalled) hid ((shown _).trans none_finalized)
        (denotes.actionId.trans named)
        ⟨by rw [denotes.state]; exact terminal, denotes.upstreamStatusCode,
          denotes.failureCategory⟩
  | idle not_issued not_stored not_finalized =>
      rw [Config.shown_answer_none pending ((view_eq _).trans not_issued),
        Config.shown_answer_none pending ((view_eq _).trans not_stored),
        Config.shown_answer_none pending ((view_eq _).trans not_finalized)]
      exact coherent

/-- An answer that is none of the services changes nothing of it. -/
theorem applicationCoherent_other {i : ℕ} {request : Request} {h : ApplicationHistory κ}
    {p q : Handler κ Answer} {e : Event (ApplicationEffects κ)}
    {world : SharedWorld deliveries journal} (coherent : ApplicationCoherent cfg)
    (pending : cfg.threads i = some ⟨request, h, p⟩) (other : serviceEvent e = none)
    (same : world.journal = cfg.world.journal) :
    ApplicationCoherent (cfg.set world i ⟨request, h ++ [e], q⟩) := by
  have nothing : ∀ {β : Type} (view : Event Effects → Option β), shownBy view e = none := by
    intro β view
    rw [shownBy, other]
    rfl
  rw [ApplicationCoherent, Config.set_world, same, Config.shown_answer_none pending (nothing _),
    Config.shown_answer_none pending (nothing _), Config.shown_answer_none pending (nothing _)]
  exact coherent

/-- **The run lemma.** -/
theorem reachable_applicationCoherent
    (reachable : (applicationSystem self deliveries journal).Reachable ok
      (SharedWorld.start deliveries journal now) cfg) : ApplicationCoherent cfg := by
  refine System.Reachable.invariant (P := ApplicationCoherent) ?_ ?_ reachable
  · have empty : journal.rows journal.initial = [] := journal.empty_initial
    refine ⟨?_, fun i id mem => absurd mem List.not_mem_nil,
      fun i j id mem => absurd mem List.not_mem_nil, fun i s mem => absurd mem List.not_mem_nil, ?_⟩
    · change (List.map _ (journal.rows journal.initial)).Nodup
      rw [empty]
      exact List.nodup_nil
    · intro row mem
      change row ∈ journal.rows journal.initial at mem
      rw [empty] at mem
      cases mem
  · intro cfg l cfg' before coherent step _
    cases step with
    | spawn request free =>
        rw [ApplicationCoherent, Config.shown_spawn free, Config.shown_spawn free,
          Config.shown_spawn free]
        exact coherent
    | answer pending answered =>
        cases answered with
        | service answered =>
            exact applicationCoherent_service coherent pending
              (reachable_handle_meets before pending).1 answered
        | authenticator | store | journal | readinessCheck =>
            exact applicationCoherent_other coherent pending rfl rfl

/-- A request that has finalized its entry did so with what became of its POST. -/
theorem reachable_concludes
    (reachable : (applicationSystem self deliveries journal).Reachable ok
      (SharedWorld.start deliveries journal now) cfg)
    {i : ℕ} {t : RequestThread κ} (running : cfg.threads i = some t) :
    Concluded (serviceHistory t.history) := by
  refine reachable_serviceHistory (.inl rfl) ?_ (fun a may => concluded_snoc a may)
    reachable running
  intro h c a plain concluded
  cases c with
  | now | uuid4 | httpGet =>
      exact concluded.congr (shown_of_none finalizationOf rfl h) (shown_of_none storedOf rfl h)
        (shown_of_none submissionOf rfl h)
  | httpPost | appendLeft | finalizeEntry | insert | updateInitiated | selectState => cases plain

end Reachable

/-! ## Intents -/

/-- What a row says of its request, whatever becomes of it. -/
structure Intent where
  actionId : UUID
  actionType : RecoveryActionType
  requestedAt : ℤ
  attemptId : UUID
  deliveryGuid : Str
  hookId : ℤ
  repository : Str
  githubDeliveryId : ℤ
  authenticationMethod : AuthenticationMethod
  principalIssuer : Option Str
  principalSubject : Option Str
  principalClientId : Option Str
  authorizationCapability : Option ManagementCapability
  authorizationScope : Option Str
  deriving DecidableEq

/-- The intent of a row. -/
def RecoveryAction.intent (row : RecoveryAction) : Intent where
  actionId := row.actionId
  actionType := row.actionType
  requestedAt := row.requestedAt.instant
  attemptId := row.attemptId
  deliveryGuid := row.deliveryGuid
  hookId := row.hookId
  repository := row.repository
  githubDeliveryId := row.githubDeliveryId
  authenticationMethod := row.authenticationMethod
  principalIssuer := row.principalIssuer
  principalSubject := row.principalSubject
  principalClientId := row.principalClientId
  authorizationCapability := row.authorizationCapability
  authorizationScope := row.authorizationScope

theorem RecoveryAction.Denotes.intent {row entry : RecoveryAction} (denotes : row.Denotes entry) :
    row.intent = entry.intent := by
  obtain ⟨requestedAt, completedAt, rfl, instant, -⟩ := denotes
  simp only [RecoveryAction.intent, instant]

section Reachable

variable {self : Application κ} {deliveries : DeliveryBackend} {journal : JournalBackend}
  {ok : Requests κ deliveries journal → Label (ApplicationEffects κ) Request → Prop}
  {now : Monotonic} {cfg : Requests κ deliveries journal}

/-- The event stores an entry with this intent. -/
def StoresIntent (intent : Intent) (e : Event (ApplicationEffects κ)) : Prop :=
  ∃ c, ∃ a : c.Answer, ∃ s, e = ⟨.service c, a⟩ ∧ storedOf ⟨c, a⟩ = some s ∧
    s.entry.intent = intent ∧ s.returned.actionId = intent.actionId

/-- The intent of every row was stored by a request. -/
theorem reachable_intent
    (reachable : (applicationSystem self deliveries journal).Reachable ok
      (SharedWorld.start deliveries journal now) cfg) {row : RecoveryAction}
    (mem : row ∈ journal.rows cfg.world.journal) :
    cfg.Happened fun _ _ e => StoresIntent row.intent e := by
  have wrote := System.Reachable.written
    (H := fun w intent => ∃ row ∈ journal.rows w.journal, row.intent = intent)
    (W := fun intent _ _ e => StoresIntent intent e) ?_ reachable ⟨row, mem, rfl⟩
  · refine wrote.resolve_left ?_
    rintro ⟨old, there, -⟩
    change old ∈ journal.rows journal.initial at there
    rw [journal.empty_initial] at there
    cases there
  · rintro cfg i request h c k a w intent before pending answered ⟨row, mem, rfl⟩
    cases answered with
    | @service c a world answered =>
        have coherent := reachable_applicationCoherent before
        have jstep := journal.steps coherent.distinct answered
        change row ∈ journal.rows world at mem
        generalize journal.rows world = rows' at jstep mem
        generalize journal.issued world = out' at jstep
        generalize he : (⟨c, a⟩ : Event Effects) = e at jstep
        cases jstep with
        | issue | idle => exact .inl ⟨row, mem, rfl⟩
        | @store _ s _ shows denotes kept =>
            rcases List.mem_cons.mp (kept.subset mem) with rfl | old
            · exact .inr ⟨c, a, s, rfl, he ▸ shows, denotes.intent.symm, rfl⟩
            · exact .inl ⟨row, old, rfl⟩
        | finalize shows present named initiated terminal denotes =>
            rcases mem_replaceRow mem with rfl | ⟨old, -⟩
            · exact .inl ⟨_, present, denotes.intent.symm⟩
            · exact .inl ⟨row, old, rfl⟩
    | authenticator | store | journal | readinessCheck => exact .inl ⟨row, mem, rfl⟩

/-- What a request stores is the entry of its redelivery. -/
theorem MayCall.entryFor {service : GitHubRedeliveryService} {redelivery : RedeliveryRequest}
    {h : History} {c : Call} {a : c.Answer} {s : Stored} (may : MayCall service redelivery h c)
    (shows : storedOf ⟨c, a⟩ = some s) : EntryFor redelivery s.entry := by
  cases c with
  | appendLeft entry =>
      cases shows
      obtain ⟨-, owner, repository, requestedAt, id, -, verified, -, -, -, rfl⟩ := may
      exact entryFor_initiatedAction id requestedAt verified.coordinates
  | insert entry =>
      obtain ⟨-, owner, repository, requestedAt, id, -, verified, -, -, -, rfl⟩ := may
      cases a with
      | ok row =>
          cases shows
          exact entryFor_initiatedAction id requestedAt verified.coordinates
      | error e => cases shows
  | now | uuid4 | httpGet | httpPost | finalizeEntry | updateInitiated | selectState =>
      cases shows

/-- What a request has stored is the entry of its redelivery, which the dependency has let
through, and whose attempt was received. -/
theorem redelivery_of_stored
    (reachable : (applicationSystem self deliveries journal).Reachable ok
      (SharedWorld.start deliveries journal now) cfg)
    {i : ℕ} {t : RequestThread κ} (running : cfg.threads i = some t) {s : Stored}
    (mem : s ∈ stored (serviceHistory t.history)) :
    ∃ redelivery, Sanctioned self cfg.world.provider t redelivery ∧
      Received self cfg redelivery.attempt ∧ EntryFor redelivery s.entry := by
  obtain ⟨⟨c, a⟩, seen, shows⟩ := List.mem_filterMap.mp mem
  obtain ⟨before, after, split⟩ := split_of_mem_serviceHistory seen
  obtain ⟨redelivery, authorized, received, may⟩ :=
    authorized_of_split reachable running split (isRedelivery_of_stores shows)
  exact ⟨redelivery, authorized, received, may.entryFor shows⟩

/-- What a request shows of the journal. -/
theorem shown_stored {i : ℕ} {t : RequestThread κ} (running : cfg.threads i = some t) :
    cfg.shown (shownBy storedOf) i = stored (serviceHistory t.history) :=
  (Config.shown_of_running running).trans (filterMap_shownBy storedOf _)

/-- Every row was stored by one request, and reports what became of the POST of that. -/
theorem reachable_owner
    (reachable : (applicationSystem self deliveries journal).Reachable ok
      (SharedWorld.start deliveries journal now) cfg) {row : RecoveryAction}
    (mem : row ∈ journal.rows cfg.world.journal) :
    ∃ i t s, cfg.threads i = some t ∧ stored (serviceHistory t.history) = [s] ∧
      s.returned.actionId = row.actionId ∧ row.intent = s.entry.intent ∧
      RowAgrees row (serviceHistory t.history) := by
  have coherent := reachable_applicationCoherent reachable
  obtain ⟨i, t, before, e, after, running, split, c, a, s, rfl, shows, intent, named⟩ :=
    reachable_intent reachable mem
  have there : s ∈ stored (serviceHistory t.history) := by
    rw [split, serviceHistory_append, stored_append]
    exact List.mem_append_right _ (List.mem_filterMap.mpr ⟨_, List.mem_cons_self, shows⟩)
  -- the request that stored it owns it
  have mine := coherent.named i s (by rw [shown_stored running]; exact there)
  obtain ⟨j, s', one, hid, reports⟩ := coherent.owned row mem
  obtain rfl := coherent.owner_eq mine one (hid.trans named.symm)
  rw [shown_stored running] at one
  rw [Config.shown_of_running running, filterMap_shownBy] at reports
  rw [one] at there
  obtain rfl := List.mem_singleton.mp there
  exact ⟨j, t, s, running, one, named, intent.symm,
    rowAgrees_of_reports (reachable_concludes reachable running) reports⟩

/-- What the journal tells of a row: the one request that stored it, who was behind that, and
what became of it. -/
def Audited (self : Application κ) (cfg : Requests κ deliveries journal) (row : RecoveryAction) :
    Prop :=
  ∃ i t redelivery entry, cfg.threads i = some t ∧ Stores (serviceHistory t.history) row.actionId ∧
    (∀ j t', cfg.threads j = some t' → Stores (serviceHistory t'.history) row.actionId → j = i) ∧
    Sanctioned self cfg.world.provider t redelivery ∧ Received self cfg redelivery.attempt ∧
    EntryFor redelivery entry ∧ row.intent = entry.intent ∧
    RowAgrees row (serviceHistory t.history)

/-- **The journal is an audit trail.** In every configuration that requests of all routes reach
from empty stores, in any number and order, over any two backends: the rows have distinct
identifiers, and each was stored by one request, which the dependency has let through with
`recovery:execute`; it names the principal and the attempt of that request, and its state is
that of the request's POST. -/
theorem journal_audits (self : Application κ) (deliveries : DeliveryBackend)
    (journal : JournalBackend) {now : Monotonic} {cfg : Requests κ deliveries journal}
    (reachable : (applicationSystem self deliveries journal).Reachable (fun _ _ => True)
      (SharedWorld.start deliveries journal now) cfg) :
    ((journal.rows cfg.world.journal).map (·.actionId)).Nodup ∧
      ∀ row ∈ journal.rows cfg.world.journal, Audited self cfg row := by
  have coherent := reachable_applicationCoherent reachable
  refine ⟨coherent.distinct, fun row mem => ?_⟩
  obtain ⟨i, t, s, running, one, named, intent, agrees⟩ := reachable_owner reachable mem
  have there : s ∈ stored (serviceHistory t.history) := one ▸ List.mem_singleton_self s
  obtain ⟨redelivery, authorized, received, entry⟩ := redelivery_of_stored reachable running there
  refine ⟨i, t, redelivery, s.entry, running, ⟨s, one, named⟩, ?_, authorized, received, entry,
    intent, agrees⟩
  rintro j t' running' ⟨s', one', named'⟩
  have mine := coherent.named i s (by rw [shown_stored running]; exact there)
  exact coherent.owner_eq mine ((shown_stored running').trans one') (named'.trans named.symm)

end Reachable

theorem journal_audits_sample :
    ∃ (cfg : MemoryRequests) (row : RecoveryAction), row ∈ cfg.world.journal.store.actions ∧
      Audited sampleApplication cfg row := by
  obtain ⟨cfg, reachable, -, counts, -⟩ := exists_sampleRun
  have one : cfg.world.journal.store.actions.length = 1 := (Prod.mk.inj counts).2
  obtain ⟨row, same⟩ := List.length_eq_one_iff.mp one
  have mem : row ∈ cfg.world.journal.store.actions := same ▸ List.mem_singleton_self row
  exact ⟨cfg, row, mem, (journal_audits sampleApplication (memoryDeliveries 1 Nat.one_pos)
    (memoryJournalBackend 1 Nat.one_pos) reachable).2 row mem⟩

end WebhookMonitor
