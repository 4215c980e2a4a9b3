import WebhookMonitor.Redelivery.Agreement

/-!
# Redelivery over the bounded journal

The in-memory journal holds at most `maxActions` entries, and creating one more
drops the oldest, whatever its state.  A request suspended at its POST can so
lose its entry: its finalization then raises an error that neither the service
nor the route expects.

* `NothingLost` — what ought to hold in every configuration;
* `eviction_loses_entry` — a run of two requests in which it fails;
* `Undisturbed` — the steps of a run in which it holds: no initiated entry is
  dropped, and the library calls raise only what the clients expect;
* `nothingLost_of_undisturbed` — it holds in every configuration such steps
  reach.
-/

namespace WebhookMonitor

open Python Interaction

/-- The errors the redelivery route maps to an answer. -/
def isMappedRedeliveryError : AppError → Bool
  | .gitHubRedeliveryDisabled | .gitHubRedeliveryJournalUnavailable _
  | .unsupportedGitHubReconciliationTarget | .unverifiedGitHubRedeliveryTarget
  | .gitHubRedeliveryOutcomeUnknown _ | .gitHubUpstreamUnavailable _
  | .gitHubUpstreamProtocol _ => true
  | _ => false

/-- Requests over the in-memory journal. -/
abbrev memorySystem (service : GitHubRedeliveryService) :
    System Effects AppError GitHubRedeliveryResult RedeliveryRequest MemoryWorld :=
  redeliverySystem service memoryJournal

/-- No call has lost its entry. -/
structure NothingLost (cfg : MemoryConfig) : Prop where
  /-- An entry that is not finalized yet is still there, and initiated. -/
  kept : ∀ i t s, cfg.threads i = some t → stored t.history = [s] →
    finalizations t.history = [] → ∃ row ∈ cfg.world.store.actions,
      row.actionId = s.returned.actionId ∧ row.state = .initiated
  /-- No finalization has failed. -/
  found : ∀ i t r e, cfg.threads i = some t → ⟨.finalizeEntry r, .error e⟩ ∉ t.history
  /-- A call that raised, raised an error the route maps. -/
  mapped : ∀ i t e, cfg.threads i = some t → t.rest = .raise e →
    isMappedRedeliveryError e = true

/-! ## A run that loses an entry -/

/-- A call was accepted by GitHub and ended with an error the route does not map. -/
def MemoryConfig.lostAt (i : ℕ) (cfg : MemoryConfig) : Bool :=
  match cfg.threads i with
  | some ⟨_, history, .raise e⟩ =>
      e = .recoveryActionNotFound "Recovery action not found" && !isMappedRedeliveryError e &&
        (submissions history).any fun s => (submissionOutcome s.answer).isOk
  | _ => false

/-- Two requests over a journal of one entry.  The first is suspended at its POST
while the second creates its entry; then the POST is answered with 202. -/
theorem eviction_loses_entry :
    ∃ cfg : MemoryConfig,
      (memorySystem sampleService).Reachable (fun _ _ => True)
        (MemoryWorld.empty 1 (by decide)) cfg ∧
      MemoryConfig.lostAt 0 cfg = true ∧ ¬ NothingLost cfg := by
  have lost : ((memorySystem sampleService).play (MemoryWorld.choose sampleOutside)
      (fun _ _ => true) (Config.initial (MemoryWorld.empty 1 (by decide)))
      (.start 0 sampleRequest :: List.replicate 4 (.go 0) ++
        .start 1 sampleRequest :: List.replicate 4 (.go 1) ++
        List.replicate 3 (.go 0))).map (MemoryConfig.lostAt 0) = some true := by decide +kernel
  obtain ⟨cfg, played, lost⟩ := Option.map_eq_some_iff.mp lost
  refine ⟨cfg, System.reachable_of_play MemoryWorld.choose_sound (fun _ => trivial) .initial
    played, lost, ?_⟩
  intro nothing
  unfold MemoryConfig.lostAt at lost
  split at lost
  · next request history e running =>
      have mapped := nothing.mapped 0 _ e running rfl
      simp [mapped] at lost
  · cases lost

/-! ## The steps of an undisturbed run -/

/-- Appending to the journal drops no initiated entry. -/
def InMemoryRecoveryActionStore.spares (store : InMemoryRecoveryActionStore) : Bool :=
  store.actions.length < store.maxActions ||
    store.actions.getLast?.all fun oldest => oldest.state ≠ .initiated

/-- The repository of the attempt is text that can be put into a path, or the
attempt is refused as a target. -/
def isAddressable (attempt : DeliveryAttempt) : Bool :=
  match repositoryCoordinates attempt with
  | .ok (owner, repository) => isScalar owner && isScalar repository
  | .error e => e = .unsupportedGitHubReconciliationTarget

/-- The client reads the answer to its GET as a page or raises what the route
maps. -/
def isExpectedListing (service : GitHubRedeliveryService) (path : Str)
    (answer : Except HttpClientError HttpResponse) : Bool :=
  match listingOutcome service.reconciliationService.limit path answer with
  | .ok _ => true
  | .error e => isMappedRedeliveryError e

/-- The HTTP client raised, if at all, from its `RequestError` family. -/
def isExpectedSubmission : Except HttpClientError HttpResponse → Bool
  | .error e => e.isRequestError
  | .ok _ => true

/-- A step that loses no entry and in which no library call raises what the
clients do not expect. -/
def isUndisturbed (service : GitHubRedeliveryService) (cfg : MemoryConfig) :
    Label Effects RedeliveryRequest → Bool
  | .spawn _ request =>
      !(service.enabled && service.hasGithubRedeliveryClient &&
        request.authorization.capability = .recoveryExecute) || isAddressable request.attempt
  | .answer _ ⟨.appendLeft _, _⟩ => cfg.world.store.spares
  | .answer _ ⟨.httpGet path _ _, answer⟩ => isExpectedListing service path answer
  | .answer _ ⟨.httpPost _, answer⟩ => isExpectedSubmission answer
  | .answer _ _ => true

/-- The steps of an undisturbed run. -/
def Undisturbed (service : GitHubRedeliveryService) (cfg : MemoryConfig)
    (l : Label Effects RedeliveryRequest) : Prop :=
  isUndisturbed service cfg l = true

namespace InMemoryRecoveryActionStore

variable {store : InMemoryRecoveryActionStore}

theorem mem_appendLeft_self (store : InMemoryRecoveryActionStore) (entry : RecoveryAction) :
    entry ∈ (store.appendLeft entry).actions := by
  obtain ⟨n, hn⟩ := Nat.exists_eq_succ_of_ne_zero store.maxActions_pos.ne'
  rw [appendLeft_actions, hn, List.take_succ_cons]
  exact List.mem_cons_self

/-- Where appending spares the initiated entries, they stay. -/
theorem mem_appendLeft_of_spares (spared : store.spares = true) {entry row : RecoveryAction}
    (mem : row ∈ store.actions) (initiated : row.state = .initiated) :
    row ∈ (store.appendLeft entry).actions := by
  rw [appendLeft_actions]
  by_cases room : store.actions.length < store.maxActions
  · rw [List.take_of_length_le (Nat.succ_le_of_lt room)]
    exact List.mem_cons_of_mem _ mem
  · -- the deque is full: the oldest entry goes, and it is not initiated
    have full : store.actions.length = store.maxActions := by
      have := store.bounded
      omega
    obtain ⟨n, hn⟩ := Nat.exists_eq_succ_of_ne_zero store.maxActions_pos.ne'
    have nonempty : store.actions ≠ [] := List.ne_nil_of_mem mem
    have last : (store.actions.getLast nonempty).state ≠ .initiated := by
      simpa [InMemoryRecoveryActionStore.spares, room, List.getLast?_eq_some_getLast nonempty]
        using spared
    rw [hn, List.take_succ_cons]
    refine List.mem_cons_of_mem _ ?_
    have hn' : n = store.actions.length - 1 := by omega
    rw [hn', ← List.dropLast_eq_take]
    rw [← List.dropLast_concat_getLast nonempty] at mem
    rcases List.mem_append.mp mem with mem | mem
    · exact mem
    · rw [List.mem_singleton.mp mem] at initiated
      exact absurd initiated last

end InMemoryRecoveryActionStore

/-- A path can be built for an addressable attempt. -/
theorem quotable {owner repository : Str} (howner : isScalar owner = true)
    (hrepository : isScalar repository = true) (hookId githubDeliveryId : ℤ) (e : BuiltinError) :
    repositoryDeliveriesPath owner repository hookId ≠ .error e ∧
      repositoryRedeliveryPath owner repository hookId githubDeliveryId ≠ .error e := by
  simp [repositoryDeliveriesPath, repositoryRedeliveryPath, quote, encodeUtf8, howner, hrepository,
    bind, Except.bind, pure, Except.pure]

/-! ## Undisturbed runs -/

variable {service : GitHubRedeliveryService} {maxActions : ℕ} {pos : 0 < maxActions}
  {cfg : MemoryConfig}

/-- By call, the entries stored and what was finalized: each entry that is not
finalized is among the rows, initiated. -/
def Kept (rows : List RecoveryAction) (entries : ℕ → List Stored)
    (finalized : ℕ → List FinalizeRequest) : Prop :=
  ∀ i s, entries i = [s] → finalized i = [] →
    ∃ row ∈ rows, row.actionId = s.returned.actionId ∧ row.state = .initiated

theorem memory_coherent {ok : MemoryConfig → Label Effects RedeliveryRequest → Prop}
    (reachable : (memorySystem service).Reachable ok (MemoryWorld.empty maxActions pos) cfg) :
    Coherent cfg.world.store.actions cfg.world.issued (cfg.shown issuedOf) (cfg.shown storedOf)
      (cfg.shown finalizationOf) := by
  have empty : memoryJournal.rows (MemoryWorld.empty maxActions pos) = [] := rfl
  exact reachable_coherent empty reachable

/-- The step lemma: a step that spares the initiated entries keeps them. -/
theorem kept_answer {i : ℕ} {request : RedeliveryRequest} {h : History} {c : Call} {a : c.Answer}
    {k : c.Answer → Action GitHubRedeliveryResult} {world : MemoryWorld}
    (coherent : Coherent cfg.world.store.actions cfg.world.issued (cfg.shown issuedOf)
      (cfg.shown storedOf) (cfg.shown finalizationOf))
    (kept : Kept cfg.world.store.actions (cfg.shown storedOf) (cfg.shown finalizationOf))
    (pending : cfg.threads i = some ⟨request, h, .call c k⟩)
    (may : MayCall (service.over memoryJournal) request h c)
    (undisturbed : Undisturbed service cfg (.answer i ⟨c, a⟩))
    (answered : cfg.world.Answers c a world) :
    Kept world.store.actions ((cfg.set world i ⟨request, h ++ [⟨c, a⟩], k a⟩).shown storedOf)
      ((cfg.set world i ⟨request, h ++ [⟨c, a⟩], k a⟩).shown finalizationOf) := by
  -- an answer that shows neither a storing nor a finalization
  have same : ∀ {e : Event Effects}, (⟨c, a⟩ : Event Effects) = e → storedOf e = none →
      finalizationOf e = none → world.store = cfg.world.store →
      Kept world.store.actions ((cfg.set world i ⟨request, h ++ [e], k a⟩).shown storedOf)
        ((cfg.set world i ⟨request, h ++ [e], k a⟩).shown finalizationOf) := by
    intro e _ not_stored not_finalized hstore
    rw [Config.shown_answer_none pending not_stored,
      Config.shown_answer_none pending not_finalized, hstore]
    exact kept
  cases c with
  | now | httpGet | httpPost =>
      obtain rfl : world = cfg.world := answered
      exact same rfl rfl rfl rfl
  | uuid4 =>
      obtain ⟨-, rfl⟩ := answered
      exact same rfl rfl rfl rfl
  | appendLeft entry =>
      obtain rfl : world = { cfg.world with store := cfg.world.store.appendLeft entry } := answered
      obtain ⟨none_stored, -, -, initiated⟩ := may.store (s := ⟨entry, entry⟩) (a := ()) rfl
      rw [Config.shown_answer_some (b := (⟨entry, entry⟩ : Stored)) pending rfl,
        Config.shown_answer_none pending rfl]
      intro j s one unfinalized
      by_cases hij : j = i
      · subst hij
        rw [Function.update_self, Config.shown_of_running pending] at one
        rw [show h.filterMap storedOf = [] from none_stored, List.nil_append] at one
        cases one
        exact ⟨entry, cfg.world.store.mem_appendLeft_self entry, rfl, initiated⟩
      · -- an entry of another call is not dropped, as the step spares the initiated ones
        rw [Function.update_of_ne hij] at one
        obtain ⟨row, mem, hid, hstate⟩ := kept j s one unfinalized
        exact ⟨row, InMemoryRecoveryActionStore.mem_appendLeft_of_spares undisturbed mem hstate,
          hid, hstate⟩
  | finalizeEntry r =>
      rw [MemoryWorld.Answers] at answered
      cases hfinalize : cfg.world.store.finalize r with
      | error e =>
          rw [hfinalize] at answered
          obtain ⟨rfl, rfl⟩ := answered
          exact same rfl rfl rfl rfl
      | ok result =>
          obtain ⟨action, store⟩ := result
          rw [hfinalize] at answered
          obtain ⟨rfl, rfl⟩ := answered
          obtain ⟨entry, submission, journalled, -, named, -⟩ := may.2
          obtain ⟨-, -, -, -, -, -, -, hactions⟩ :=
            InMemoryRecoveryActionStore.finalizeIn_eq_ok coherent.distinct
              (InMemoryRecoveryActionStore.finalize_eq_ok hfinalize).1
          have mine : cfg.shown storedOf i = [entry] :=
            (Config.shown_of_running pending).trans journalled
          rw [Config.shown_answer_none pending rfl, Config.shown_answer_some (b := r) pending rfl]
          intro j s one unfinalized
          by_cases hij : j = i
          · subst hij
            rw [Function.update_self] at unfinalized
            exact absurd unfinalized (List.append_ne_nil_of_right_ne_nil _ (List.cons_ne_nil _ _))
          · rw [Function.update_of_ne hij] at unfinalized
            obtain ⟨row, mem, hid, hstate⟩ := kept j s one unfinalized
            refine ⟨row, ?_, hid, hstate⟩
            rw [hactions]
            -- the entry finalized is that of call `i`, and identifiers are issued once
            refine mem_replaceRow_of_ne mem fun heq => hij ?_
            have hmine : r.actionId ∈ cfg.shown issuedOf i := by
              rw [named]
              exact coherent.named i entry (by rw [mine]; exact List.mem_singleton_self entry)
            exact coherent.owner_eq hmine one (hid.symm.trans heq)
  | insert | updateInitiated | selectState => exact answered.elim

theorem reachable_kept
    (reachable : (memorySystem service).Reachable (Undisturbed service)
      (MemoryWorld.empty maxActions pos) cfg) :
    Kept cfg.world.store.actions (cfg.shown storedOf) (cfg.shown finalizationOf) := by
  refine System.Reachable.invariant (P := fun cfg : MemoryConfig =>
    Kept cfg.world.store.actions (cfg.shown storedOf) (cfg.shown finalizationOf)) ?_ ?_ reachable
  · intro i s one
    cases one
  · intro cfg l cfg' before kept step undisturbed
    cases step with
    | spawn request free =>
        rw [Config.shown_spawn free, Config.shown_spawn free]
        exact kept
    | answer pending answered =>
        exact kept_answer (memory_coherent before) kept pending (reachable_meets before pending).1
          undisturbed answered

/-- A finalization with what became of a POST asks for a terminal state. -/
theorem Agrees.terminal {answer : Except HttpClientError HttpResponse} {r : FinalizeRequest}
    (agrees : Agrees answer r) :
    ∃ state, RecoveryActionState.terminalOfText r.state = some state := by
  cases answer with
  | ok response =>
      rw [Agrees] at agrees
      split_ifs at agrees with h202
      · exact ⟨.accepted, by rw [agrees.1]; rfl⟩
      · exact ⟨.failed, by rw [agrees.1]; rfl⟩
  | error e =>
      rw [Agrees] at agrees
      split_ifs at agrees with hconnect
      · exact ⟨.failed, by rw [agrees.1]; rfl⟩
      · exact ⟨.outcomeUnknown, by rw [agrees.2.1]; rfl⟩

/-- What the events of an undisturbed run look like. -/
def Expected (service : GitHubRedeliveryService) : Event Effects → Prop
  | ⟨.finalizeEntry _, .error _⟩ => False
  | ⟨.updateInitiated .., _⟩ => False
  | ⟨.httpGet path _ _, answer⟩ => isExpectedListing service path answer = true
  | ⟨.httpPost _, answer⟩ => isExpectedSubmission answer = true
  | _ => True

/-- The journal finds every entry it is asked to finalize. -/
theorem reachable_expected
    (reachable : (memorySystem service).Reachable (Undisturbed service)
      (MemoryWorld.empty maxActions pos) cfg) {i : ℕ}
    {t : Thread Effects AppError GitHubRedeliveryResult RedeliveryRequest}
    (running : cfg.threads i = some t) : ∀ e ∈ t.history, Expected service e := by
  refine reachable.event
    (fun {cfg i request h c k a world'} before pending undisturbed answered => ?_) running
  cases c with
  | httpGet | httpPost => exact undisturbed
  | updateInitiated => exact answered
  | now | uuid4 | appendLeft | insert | selectState => trivial
  | finalizeEntry r =>
      cases a with
      | ok row => trivial
      | error e =>
          have coherent := memory_coherent before
          obtain ⟨-, entry, submission, journalled, -, named, agrees, unfinalized⟩ :=
            (reachable_meets before pending).1
          obtain ⟨row, mem, hid, initiated⟩ := reachable_kept before i entry
            ((Config.shown_of_running pending).trans journalled)
            ((Config.shown_of_running pending).trans unfinalized)
          obtain ⟨state, terminal⟩ := agrees.terminal
          cases hfinalize : cfg.world.store.finalize r with
          | error e' =>
              exact absurd (InMemoryRecoveryActionStore.finalize_eq_error hfinalize)
                (InMemoryRecoveryActionStore.finalizeIn_ne_error coherent.distinct mem
                  (hid.trans named.symm) initiated terminal e')
          | ok result =>
              change cfg.world.Answers (.finalizeEntry r) (.error e) world' at answered
              rw [MemoryWorld.Answers, hfinalize] at answered
              cases answered.1

/-- A service as the settings and `create_app` build it: with redelivery enabled,
reconciliation is enabled and has its client. -/
def SearchReady (service : GitHubRedeliveryService) : Prop :=
  service.enabled = true → service.reconciliationService.enabled = true ∧
    service.reconciliationService.hasGithubClient = true

theorem mem_of_mem_listings {h : History} {l : Listing} (mem : l ∈ listings h) :
    ∃ perPage, ⟨.httpGet l.path perPage l.cursor, l.answer⟩ ∈ h := by
  obtain ⟨⟨c, a⟩, happened, shows⟩ := List.mem_filterMap.mp mem
  cases c with
  | httpGet path perPage cursor => cases shows; exact ⟨perPage, happened⟩
  | now | uuid4 | httpPost | appendLeft | finalizeEntry | insert | updateInitiated | selectState =>
      cases shows

theorem mem_of_mem_submissions {h : History} {s : Submission} (mem : s ∈ submissions h) :
    ⟨.httpPost s.path, s.answer⟩ ∈ h := by
  obtain ⟨⟨c, a⟩, happened, shows⟩ := List.mem_filterMap.mp mem
  cases c with
  | httpPost path => cases shows; exact happened
  | now | uuid4 | httpGet | appendLeft | finalizeEntry | insert | updateInitiated | selectState =>
      cases shows

/-- The redelivery client raises what the route maps, unless the HTTP client
raised outside its `RequestError` family. -/
theorem isMapped_of_submissionOutcome {answer : Except HttpClientError HttpResponse} {e : AppError}
    (expected : isExpectedSubmission answer = true) (failed : submissionOutcome answer = .error e) :
    isMappedRedeliveryError e = true := by
  cases answer with
  | ok response =>
      rw [submissionOutcome, redeliveryOutcome] at failed
      split_ifs at failed <;> cases failed <;> rfl
  | error failure =>
      rw [submissionOutcome] at failed
      split_ifs at failed with hconnect hrequest
      · cases failed; rfl
      · cases failed; rfl
      · exact absurd expected hrequest

/-- Every reason to raise, but those an undisturbed run excludes, is mapped. -/
theorem isMapped_of_failure {request : RedeliveryRequest} {h : History} {e : AppError}
    (ready : SearchReady service)
    (addressable : Admitted service request → isAddressable request.attempt = true)
    (expected : ∀ e ∈ h, Expected service e)
    (failure : RedeliveryFailure (service.over memoryJournal) request h e) :
    isMappedRedeliveryError e = true := by
  -- what an addressable attempt excludes
  have target : ∀ (_ : Admitted (service.over memoryJournal) request) {owner repository : Str},
      repositoryCoordinates request.attempt = .ok (owner, repository) →
        isScalar owner = true ∧ isScalar repository = true := by
    intro admitted owner repository coordinates
    have := addressable ⟨admitted.enabled, admitted.client, admitted.capability⟩
    simpa [isAddressable, coordinates] using this
  -- the errors of the service are mapped; those of the language are excluded
  cases failure with
  | disabled | unverified => rfl
  | journal message open_ => rfl
  | path admitted coordinates unquotable =>
      obtain ⟨howner, hrepository⟩ := target admitted coordinates
      exact absurd unquotable (quotable howner hrepository _ _ _).2
  | submission sent failed =>
      exact isMapped_of_submissionOutcome (expected _ (mem_of_mem_submissions sent)) failed
  | refused refused =>
      rcases refused with mem | ⟨state, mem⟩
      · exact (expected _ mem).elim
      · exact (expected _ mem).elim
  | search admitted failure =>
      cases failure with
      | disabled off =>
          obtain ⟨enabled, client⟩ := ready admitted.enabled
          have on : (service.reconciliationService.enabled &&
            service.reconciliationService.hasGithubClient) = true := by rw [enabled, client]; rfl
          exact absurd (on.symm.trans off) Bool.true_eq_false.mp
      | target refused =>
          have := addressable ⟨admitted.enabled, admitted.client, admitted.capability⟩
          have heq : e = .unsupportedGitHubReconciliationTarget := by
            simpa [isAddressable, refused] using this
          rw [heq]
          rfl
      | cursor refused => cases refused
      | path coordinates unquotable =>
          obtain ⟨howner, hrepository⟩ := target admitted coordinates
          exact absurd unquotable (quotable howner hrepository _ 0 _).1
      | listing asked failed =>
          obtain ⟨perPage, mem⟩ := mem_of_mem_listings asked
          have hmapped : isExpectedListing service _ _ = true := expected _ mem
          rw [isExpectedListing] at hmapped
          rw [show listingOutcome service.reconciliationService.limit _ _ = .error e from failed]
            at hmapped
          exact hmapped

/-- **Nothing is lost in undisturbed runs.**  For every capacity and any number of
requests in any order: as long as no step appends over an initiated entry and no
library call raises what the clients do not expect, every open entry is present,
every finalization finds its entry, and every call that ends returned or raised
an error the route maps. -/
theorem nothingLost_of_undisturbed (ready : SearchReady service)
    (reachable : (memorySystem service).Reachable (Undisturbed service)
      (MemoryWorld.empty maxActions pos) cfg) : NothingLost cfg := by
  refine ⟨?_, ?_, ?_⟩
  · intro i t s running one unfinalized
    exact reachable_kept reachable i s ((Config.shown_of_running running).trans one)
      ((Config.shown_of_running running).trans unfinalized)
  · intro i t r e running mem
    exact reachable_expected reachable running _ mem
  · intro i t e running hrest
    have meets := reachable_meets reachable running
    rw [hrest] at meets
    have addressable : Admitted service t.request → isAddressable t.request.attempt = true := by
      refine reachable.request (Q := fun request => Admitted service request →
        isAddressable request.attempt = true) (fun undisturbed admitted => ?_) running
      simpa [Undisturbed, isUndisturbed, admitted.enabled, admitted.client, admitted.capability]
        using undisturbed
    exact isMapped_of_failure ready addressable (reachable_expected reachable running) meets.1

theorem nothingLost_sample :
    ∃ cfg : MemoryConfig, cfg.states = [.initiated, .accepted] ∧ NothingLost cfg := by
  have undisturbed : ((memorySystem sampleService).play (MemoryWorld.choose sampleOutside)
      (isUndisturbed sampleService) (Config.initial (MemoryWorld.empty 2 (by decide)))
      (.start 0 sampleRequest :: List.replicate 7 (.go 0) ++
        .start 1 sampleRequest :: List.replicate 4 (.go 1))).map MemoryConfig.states =
        some [.initiated, .accepted] := by decide +kernel
  obtain ⟨cfg, played, states⟩ := Option.map_eq_some_iff.mp undisturbed
  exact ⟨cfg, states, nothingLost_of_undisturbed (fun _ => ⟨rfl, rfl⟩)
    (System.reachable_of_play MemoryWorld.choose_sound id .initial played)⟩

end WebhookMonitor
