import WebhookMonitor.Reconciliation.Search
import WebhookMonitor.Services.GitHubRedelivery

/-!
# What a redelivery request may do

Each call of `request_redelivery` goes through the same stages: search, journal,
submit, finalize.  `MayCall` says at which point of a history each call may be
made, `Ended` what a finished history shows, and `requestRedelivery_meets` that
the service keeps to both, whatever the upstream, the store and the clock
answer.

The redelivery theorems, about one request and about requests running side by
side, use this lemma and do not look into the service again.
-/

namespace WebhookMonitor

open Python Interaction

variable (service : GitHubRedeliveryService) (request : RedeliveryRequest)

/-! ## The stages -/

/-- What the service checks first. -/
structure Admitted : Prop where
  enabled : service.enabled = true
  client : service.hasGithubRedeliveryClient = true
  capability : request.authorization.capability = .recoveryExecute

/-- Everything that has to hold before the journal is written: the checks of the
service, and a page of this search with the requested record on it, under the
GUID of the attempt. -/
structure Verified (owner repository : Str) (ls : List Listing) : Prop extends
    Admitted service request where
  coordinates : repositoryCoordinates request.attempt = .ok (owner, repository)
  bounded : ls.length ≤ service.reconciliationService.maxPages
  found : ∃ pages,
    Searched service.reconciliationService request.attempt owner repository none ls pages ∧
      ∃ page ∈ pages, ∃ record ∈ page.deliveries,
        record.githubDeliveryId = request.githubDeliveryId ∧
          record.deliveryGuid = request.attempt.deliveryIdentity.deliveryGuid

/-- The entry of this request, and nothing else, has been stored. -/
def Journalled (owner repository : Str) (h : History) (returned : RecoveryAction) : Prop :=
  ∃ id ∈ issued h, ∃ requestedAt, stored h = [⟨initiatedAction id
    (GitHubRedeliveryService.createRequest request owner repository requestedAt), returned⟩]

/-- A finalization that tells what became of the POST. -/
def Agrees (answer : Except HttpClientError HttpResponse) (r : FinalizeRequest) : Prop :=
  match answer with
  | .ok response =>
      if response.statusCode = 202 then
        r.state = RecoveryActionState.accepted.text ∧ r.upstreamStatusCode = some 202 ∧
          r.failureCategory = none
      else r.state = RecoveryActionState.failed.text ∧
        r.upstreamStatusCode = some response.statusCode ∧ r.failureCategory.isSome
  | .error e =>
      if e.isConnectFailure then
        r.state = RecoveryActionState.failed.text ∧ r.upstreamStatusCode = none ∧
          r.failureCategory.isSome
      else e.isRequestError = true ∧ r.state = RecoveryActionState.outcomeUnknown.text ∧
        r.upstreamStatusCode = none ∧ r.failureCategory.isSome

/-- The entry that was stored may be finalized with what became of the POST. -/
def MayConclude (h : History) (r : FinalizeRequest) : Prop :=
  ∃ entry submission, stored h = [entry] ∧ submissions h = [submission] ∧
    r.actionId = entry.returned.actionId ∧ Agrees submission.answer r ∧
    finalizations h = []

/-- The call may be made at this point; after a failed statement there is none. -/
def MayCall (h : History) (c : Call) : Prop :=
  faults h = [] ∧ match c with
  | .httpGet .. => ∃ owner repository,
      repositoryCoordinates request.attempt = .ok (owner, repository) ∧
        MayList service.reconciliationService request.attempt owner repository none h c
  | .appendLeft entry | .insert entry => ∃ owner repository requestedAt, ∃ id ∈ issued h,
      Verified service request owner repository (listings h) ∧ stored h = [] ∧
        submissions h = [] ∧ finalizations h = [] ∧
        entry = initiatedAction id
          (GitHubRedeliveryService.createRequest request owner repository requestedAt)
  | .httpPost path => ∃ owner repository returned,
      Verified service request owner repository (listings h) ∧
        Journalled request owner repository h returned ∧ submissions h = [] ∧
        finalizations h = [] ∧
        repositoryRedeliveryPath owner repository request.attempt.deliveryIdentity.hookId
          request.githubDeliveryId = .ok path
  | .finalizeEntry r => MayConclude h r
  | .updateInitiated r state =>
      MayConclude h r ∧ RecoveryActionState.terminalOfText r.state = some state
  | .now | .uuid4 | .selectState _ => True

/-- Why a request raised. -/
inductive RedeliveryFailure (h : History) : AppError → Prop where
  | disabled : RedeliveryFailure h .gitHubRedeliveryDisabled
  | search {e : AppError} (admitted : Admitted service request)
      (failure : SearchFailure service.reconciliationService request.attempt none (listings h) e) :
      RedeliveryFailure h e
  | unverified : RedeliveryFailure h .unverifiedGitHubRedeliveryTarget
  | journal (message : String) (open_ : finalizations h = []) :
      RedeliveryFailure h (.gitHubRedeliveryJournalUnavailable message)
  | path {owner repository : Str} {e : BuiltinError} (admitted : Admitted service request)
      (coordinates : repositoryCoordinates request.attempt = .ok (owner, repository))
      (unquotable : repositoryRedeliveryPath owner repository
        request.attempt.deliveryIdentity.hookId request.githubDeliveryId = .error e) :
      RedeliveryFailure h (.python e)
  | submission {s : Submission} {e : AppError} (sent : s ∈ submissions h)
      (failed : submissionOutcome s.answer = .error e) : RedeliveryFailure h e
  | refused {r : FinalizeRequest} {e : AppError} (refused : Refused r h e) :
      RedeliveryFailure h e

/-- How a request may end. -/
def Ended (h : History) (r : Except AppError GitHubRedeliveryResult) : Prop :=
  match r with
  | .ok result => ∃ entry, stored h = [entry] ∧ result.actionId = entry.returned.actionId ∧
      result.attempt = request.attempt ∧ result.githubDeliveryId = request.githubDeliveryId ∧
      faults h = [] ∧
      ∃ fin, finalizations h = [fin] ∧ fin.actionId = entry.returned.actionId ∧
        fin.state = RecoveryActionState.accepted.text
  | .error e => RedeliveryFailure service request h e ∧
      (faults h ≠ [] → finalizations h = [] ∧
        ∃ message, e = .gitHubRedeliveryJournalUnavailable message)

/-! ## Journal operations -/

open GitHubRedeliveryService in
/-- The rule of `except RecoveryActionStoreError`. -/
theorem meets_journalUnavailable {α : Type} {allowed : History → Call → Prop}
    {post : History → Except AppError α → Prop} {p : Action α} {h : History} :
    Meets allowed post (journalUnavailable p) h ↔
      Meets allowed (fun h r => post h (r.mapError asUnavailable)) p h := by
  rw [journalUnavailable, meets_tryCatch]
  refine ⟨meets_mono (fun _ _ may => may) fun h r => ?_,
    meets_mono (fun _ _ may => may) fun h r => ?_⟩
  · cases r <;> exact id
  · cases r <;> exact id

variable {service request} {owner repository : Str} {h : History}

/-- `_finalize_action` with what became of the POST. -/
theorem finalizeAction_meets {entry : Stored} {submission : Submission}
    {state : RecoveryActionState} {status : Option ℤ} {category : Option Str}
    (journalled : stored h = [entry]) (sent : submissions h = [submission])
    (none_finalized : finalizations h = []) (no_fault : faults h = [])
    (terminal : state.isTerminal = true)
    (agrees : ∀ completedAt, Agrees submission.answer
      ⟨entry.returned.actionId, state.text, completedAt, status, category⟩) :
    Meets (MayCall service request)
      (fun h' r => SameEntries h h' ∧
        match r with
        | .ok _ => faults h' = [] ∧ ∃ fin, finalizations h' = [fin] ∧
            fin.actionId = entry.returned.actionId ∧ fin.state = state.text
        | .error e => finalizations h' = [] ∧
            ((∃ message, e = .gitHubRedeliveryJournalUnavailable message) ∨
              (faults h' = [] ∧ ∃ r, Refused r h' e)))
      (service.finalizeAction entry.returned.actionId state status category) h := by
  rw [GitHubRedeliveryService.finalizeAction, meets_journalUnavailable, nowUtc_bind]
  refine ⟨⟨no_fault, trivial⟩, fun wall => ?_⟩
  dsimp only
  generalize hfin : (⟨entry.returned.actionId, state.text, AwareDatetime.utc wall, status,
    category⟩ : FinalizeRequest) = fin
  have hagrees : Agrees submission.answer fin := hfin ▸ agrees _
  have hid : fin.actionId = entry.returned.actionId := by rw [← hfin]
  have hstate : fin.state = state.text := by rw [← hfin]
  have hterminal : RecoveryActionState.terminalOfText fin.state = some state := by
    rw [hstate, RecoveryActionState.terminalOfText_text terminal]
  generalize hh : h ++ [(⟨.now, wall⟩ : Event Effects)] = h₁
  have same : SameEntries h h₁ := hh ▸ (SameEntries.refl h).snoc rfl rfl rfl
  have hfinalizations : finalizations h₁ = [] :=
    hh ▸ (shown_of_none finalizationOf rfl h).trans none_finalized
  have hfaults : faults h₁ = [] := hh ▸ (shown_of_none faultOf rfl h).trans no_fault
  rw [meets_bind]
  refine meets_mono (fun h' c may => ?_) (fun h' r finalized => ?_)
    (service.recoveryActionStore.finalize_meets fin h₁)
  · obtain ⟨same', unfinalized, unfaulted, call⟩ := may
    -- the statement may be sent: it reports what became of the POST
    have conclude : MayConclude h' fin :=
      ⟨entry, submission, (same'.stored.trans same.stored).trans journalled,
        (same'.submissions.trans same.submissions).trans sent, hid, hagrees,
        unfinalized.trans hfinalizations⟩
    refine ⟨unfaulted.trans hfaults, ?_⟩
    cases c with
    | finalizeEntry r =>
        obtain rfl : r = fin := call
        exact conclude
    | updateInitiated r state' =>
        obtain ⟨rfl, hstate'⟩ := call
        exact ⟨conclude, hstate'⟩
    | selectState id => trivial
    | now | uuid4 | httpGet | httpPost | appendLeft | insert => exact call.elim
  · obtain ⟨same', result⟩ := finalized
    have hsame : SameEntries h h' :=
      ⟨same'.listings.trans same.listings, same'.submissions.trans same.submissions,
        same'.stored.trans same.stored⟩
    cases r with
    | ok row =>
        obtain ⟨one, unfaulted⟩ := result
        refine ⟨hsame, unfaulted.trans hfaults, fin, ?_, hid, hstate⟩
        rw [one, hfinalizations, List.nil_append]
    | error e =>
        obtain ⟨unfinalized, ⟨message, rfl⟩ | ⟨unfaulted, refused | never⟩⟩ := result
        · exact ⟨hsame, unfinalized.trans hfinalizations, .inl ⟨_, rfl⟩⟩
        · refine ⟨hsame, unfinalized.trans hfinalizations, ?_⟩
          cases e with
          | recoveryActionStore message => exact .inl ⟨_, rfl⟩
          | _ => exact .inr ⟨unfaulted.trans hfaults, fin, refused⟩
        · rw [hterminal] at never
          cases never

/-- A finalization that raises is one of the failures of a request. -/
theorem failure_of_finalizeAction {e : AppError} (unfinalized : finalizations h = [])
    (raised : (∃ message, e = .gitHubRedeliveryJournalUnavailable message) ∨
      (faults h = [] ∧ ∃ r, Refused r h e)) :
    RedeliveryFailure service request h e ∧
      (faults h ≠ [] → finalizations h = [] ∧
        ∃ message, e = .gitHubRedeliveryJournalUnavailable message) := by
  obtain ⟨message, rfl⟩ | ⟨unfaulted, r, refused⟩ := raised
  · exact ⟨.journal message unfinalized, fun _ => ⟨unfinalized, message, rfl⟩⟩
  · exact ⟨.refused refused, fun faulted => absurd unfaulted faulted⟩

/-- The `except` clauses around the POST, when it failed with `e`. -/
theorem finalizeFailure_meets {entry : Stored} {submission : Submission} {e : AppError}
    (journalled : stored h = [entry]) (sent : submissions h = [submission])
    (none_finalized : finalizations h = []) (no_fault : faults h = [])
    (failed : submissionOutcome submission.answer = .error e) :
    Meets (MayCall service request)
      (fun h' r => match r with
        | .ok _ => False
        | .error e' => RedeliveryFailure service request h' e' ∧
            (faults h' ≠ [] → finalizations h' = [] ∧
              ∃ message, e' = .gitHubRedeliveryJournalUnavailable message))
      (service.finalizeFailure entry.returned.actionId e) h := by
  have sent_mem : ∀ {h'}, SameEntries h h' → submission ∈ submissions h' := fun same => by
    rw [same.submissions, sent]
    exact List.mem_singleton_self _
  -- each clause finalizes and raises the same error again
  have clause : ∀ (state : RecoveryActionState) (status : Option ℤ) (category : Option Str),
      state.isTerminal = true → (∀ completedAt, Agrees submission.answer
        ⟨entry.returned.actionId, state.text, completedAt, status, category⟩) →
      Meets (MayCall service request)
        (fun h' r => match r with
          | .ok _ => False
          | .error e' => RedeliveryFailure service request h' e' ∧
              (faults h' ≠ [] → finalizations h' = [] ∧
                ∃ message, e' = .gitHubRedeliveryJournalUnavailable message))
        (service.finalizeAction entry.returned.actionId state status category >>= fun _ =>
          (throw e : Action Unit)) h := by
    intro state status category terminal agrees
    rw [meets_bind]
    refine meets_mono (fun _ _ may => may) (fun h' r ended => ?_)
      (finalizeAction_meets journalled sent none_finalized no_fault terminal agrees)
    cases r with
    | ok _ =>
        obtain ⟨same, unfaulted, -⟩ := ended
        exact ⟨.submission (sent_mem same) failed, fun faulted => absurd unfaulted faulted⟩
    | error e' =>
        obtain ⟨-, unfinalized, raised⟩ := ended
        exact failure_of_finalizeAction unfinalized raised
  -- the clause that catches the error decides on the state
  cases hanswer : submission.answer with
  | error failure =>
      rw [hanswer, submissionOutcome] at failed
      split_ifs at failed with hconnect hrequest
      · cases failed
        exact clause .failed none _ rfl fun _ => by
          simp [Agrees, hanswer, hconnect]
      · cases failed
        exact clause .outcomeUnknown none _ rfl fun _ => by
          simp [Agrees, hanswer, hconnect, hrequest]
      · cases failed
        exact ⟨.submission (by rw [sent]; exact List.mem_singleton_self _) (by
          rw [hanswer, submissionOutcome, if_neg hconnect, if_neg hrequest]),
          fun faulted => absurd no_fault faulted⟩
  | ok response =>
      rw [hanswer, submissionOutcome, redeliveryOutcome] at failed
      split_ifs at failed with h202 hlimited hserver
      · cases failed
        exact clause .failed _ _ rfl fun _ => by
          simp [Agrees, hanswer, h202]
      · cases failed
        exact clause .failed _ _ rfl fun _ => by
          simp [Agrees, hanswer, h202]
      · cases failed
        exact clause .failed _ _ rfl fun _ => by
          simp [Agrees, hanswer, h202]

/-! ## The request -/

/-- The client accepts 202 and nothing else. -/
theorem eq_of_submissionOutcome_ok {answer : Except HttpClientError HttpResponse}
    (accepted : submissionOutcome answer = .ok ()) :
    ∃ response, answer = .ok response ∧ response.statusCode = 202 := by
  cases answer with
  | error e =>
      rw [submissionOutcome] at accepted
      split_ifs at accepted
  | ok response =>
      rw [submissionOutcome, redeliveryOutcome] at accepted
      split_ifs at accepted with h202
      exact ⟨response, rfl, h202⟩

/-- What the submission shows: the one POST, and nothing else. -/
theorem requestRepositoryWebhookRedelivery_meets {returned : RecoveryAction}
    (verified : Verified service request owner repository (listings h))
    (journalled : Journalled request owner repository h returned)
    (none_sent : submissions h = []) (none_finalized : finalizations h = [])
    (no_fault : faults h = []) :
    Meets (MayCall service request)
      (fun h' r => listings h' = listings h ∧ stored h' = stored h ∧ finalizations h' = [] ∧
        faults h' = faults h ∧
        ((∃ submission, submissions h' = [submission] ∧ submissionOutcome submission.answer = r) ∨
          ∃ e, repositoryRedeliveryPath owner repository request.attempt.deliveryIdentity.hookId
            request.githubDeliveryId = .error e ∧ r = .error (.python e)))
      (requestRepositoryWebhookRedelivery owner repository
        request.attempt.deliveryIdentity.hookId request.githubDeliveryId) h := by
  rw [requestRepositoryWebhookRedelivery]
  cases hpath : repositoryRedeliveryPath owner repository request.attempt.deliveryIdentity.hookId
      request.githubDeliveryId with
  | error e =>
      rw [uncaught_error, Program.ofExcept_error, Program.raise_bind, meets_raise]
      exact ⟨rfl, rfl, none_finalized, rfl, .inr ⟨e, rfl, rfl⟩⟩
  | ok path =>
      rw [uncaught_ok, Program.ofExcept_ok, Program.ret_bind, invoke_bind]
      refine ⟨⟨no_fault, owner, repository, returned, verified, journalled, none_sent,
        none_finalized, hpath⟩, fun answer => meets_ofExcept.mpr ⟨shown_of_none listingOf rfl h,
          shown_of_none storedOf rfl h, (shown_of_none finalizationOf rfl h).trans none_finalized,
          shown_of_none faultOf rfl h, .inl ⟨⟨path, answer⟩, ?_, rfl⟩⟩⟩
      rw [submissions_append, none_sent]
      rfl

/-- Submit and finalize, once the entry is in the journal. -/
theorem submitJournalled_meets {id : UUID} {requestedAt : AwareDatetime} {returned : RecoveryAction}
    (verified : Verified service request owner repository (listings h)) (fresh : id ∈ issued h)
    (one : stored h = [⟨initiatedAction id
      (GitHubRedeliveryService.createRequest request owner repository requestedAt), returned⟩])
    (none_sent : submissions h = []) (none_finalized : finalizations h = [])
    (no_fault : faults h = []) :
    Meets (MayCall service request) (Ended service request) (do
        tryCatch
          (requestRepositoryWebhookRedelivery owner repository
            request.attempt.deliveryIdentity.hookId request.githubDeliveryId)
          (service.finalizeFailure returned.actionId)
        service.finalizeAction returned.actionId .accepted (some 202) none
        return { actionId := returned.actionId, attempt := request.attempt,
                 githubDeliveryId := request.githubDeliveryId, status := "accepted" }) h := by
  have journalled : Journalled request owner repository h returned := ⟨id, fresh, _, one⟩
  -- the POST, and the `except` clauses around it
  rw [meets_bind, meets_tryCatch]
  refine meets_mono (fun _ _ may => may) (fun h₁ r submitted => ?_)
    (requestRepositoryWebhookRedelivery_meets verified journalled none_sent none_finalized no_fault)
  obtain ⟨-, stored_eq, unfinalized, faults_eq, result⟩ := submitted
  have one₁ := stored_eq.trans one
  have unfaulted : faults h₁ = [] := faults_eq.trans no_fault
  cases r with
  | ok _ =>
      obtain ⟨submission, sent, accepted⟩ | ⟨e, -, impossible⟩ := result
      · obtain ⟨response, hanswer, h202⟩ := eq_of_submissionOutcome_ok accepted
        rw [meets_bind]
        refine meets_mono (fun _ _ may => may) (fun h₂ r concluded => ?_)
          (finalizeAction_meets one₁ sent unfinalized unfaulted rfl fun _ => by
            simp [Agrees, hanswer, h202])
        cases r with
        | ok _ =>
            obtain ⟨same, unfaulted₂, fin, finalized, hid, hstate⟩ := concluded
            exact ⟨_, same.stored.trans one₁, rfl, rfl, rfl, unfaulted₂, fin, finalized,
              hid, hstate⟩
        | error e =>
            obtain ⟨-, unfinalized₂, raised⟩ := concluded
            exact failure_of_finalizeAction unfinalized₂ raised
      · cases impossible
  | error e =>
      obtain ⟨submission, sent, failed⟩ | ⟨e, unquotable, heq⟩ := result
      · refine meets_mono (fun _ _ may => may) (fun h₂ r failure => ?_)
          (finalizeFailure_meets one₁ sent unfinalized unfaulted failed)
        cases r with
        | ok _ => exact failure.elim
        | error e' => exact failure
      · cases heq
        exact ⟨.path verified.toAdmitted verified.coordinates unquotable,
          fun faulted => absurd unfaulted faulted⟩

/-- Journal, submit, finalize. -/
theorem submitVerified_meets (only : OnlyListings h)
    (verified : Verified service request owner repository (listings h)) :
    Meets (MayCall service request) (Ended service request)
      (service.submitVerified request owner repository) h := by
  rw [GitHubRedeliveryService.submitVerified, meets_bind, meets_journalUnavailable, nowUtc_bind]
  refine ⟨⟨only.faults, trivial⟩, fun wall => ?_⟩
  dsimp only
  generalize hcreate : GitHubRedeliveryService.createRequest request owner repository
    (AwareDatetime.utc wall) = create
  generalize hh : h ++ [(⟨.now, wall⟩ : Event Effects)] = h₁
  have same : SameExchanges h h₁ := hh ▸ (SameExchanges.refl h).snoc rfl rfl rfl rfl
  have hstored : stored h₁ = [] := hh ▸ (shown_of_none storedOf rfl h).trans only.stored
  refine meets_mono (fun h' c may => ?_) (fun h' r created => ?_)
    (service.recoveryActionStore.create_meets create h₁)
  · obtain ⟨same', unstored, call⟩ := may
    have listings_eq := same'.listings.trans same.listings
    -- what is stored is the entry of this request
    have stage : ∀ id ∈ issued h', ∃ owner repository requestedAt, ∃ id' ∈ issued h',
        Verified service request owner repository (listings h') ∧ stored h' = [] ∧
          submissions h' = [] ∧ finalizations h' = [] ∧
          initiatedAction id create = initiatedAction id'
            (GitHubRedeliveryService.createRequest request owner repository requestedAt) :=
      fun id issued => ⟨owner, repository, AwareDatetime.utc wall, id, issued,
        listings_eq ▸ verified,
        unstored.trans hstored, (same'.submissions.trans same.submissions).trans only.submissions,
        (same'.finalizations.trans same.finalizations).trans only.finalizations, by rw [hcreate]⟩
    refine ⟨(same'.faults.trans same.faults).trans only.faults, ?_⟩
    cases c with
    | uuid4 => trivial
    | appendLeft entry =>
        obtain ⟨id, issued, rfl⟩ := call
        exact stage id issued
    | insert entry =>
        obtain ⟨id, issued, rfl⟩ := call
        exact stage id issued
    | now | httpGet | httpPost | finalizeEntry | updateInitiated | selectState =>
        exact call.elim
  · obtain ⟨same', result⟩ := created
    have listings_eq := same'.listings.trans same.listings
    have none_sent := (same'.submissions.trans same.submissions).trans only.submissions
    have none_finalized := (same'.finalizations.trans same.finalizations).trans only.finalizations
    have no_fault := (same'.faults.trans same.faults).trans only.faults
    cases r with
    | error e =>
        obtain ⟨-, message, rfl⟩ := result
        exact ⟨.journal _ none_finalized, fun faulted => absurd no_fault faulted⟩
    | ok returned =>
        obtain ⟨id, fresh, one⟩ := result
        rw [hstored, List.nil_append, ← hcreate] at one
        exact submitJournalled_meets (listings_eq ▸ verified) fresh one none_sent none_finalized
          no_fault

/-- A match of the search is the record that was asked for. -/
theorem Concludes.verifies {pages : List GitHubDeliveryPage} {result : GitHubReconciliationResult}
    (concludes : Concludes service.reconciliationService request.attempt none pages result)
    (found : result.matching.any (·.githubDeliveryId = request.githubDeliveryId) = true) :
    ∃ page ∈ pages, ∃ record ∈ page.deliveries,
      record.githubDeliveryId = request.githubDeliveryId ∧
        record.deliveryGuid = request.attempt.deliveryIdentity.deliveryGuid := by
  obtain ⟨record, mem, hid⟩ := List.any_eq_true.mp found
  rw [concludes.matching] at mem
  obtain ⟨page, got, stands⟩ := List.mem_flatMap.mp mem
  obtain ⟨stands, guid⟩ := List.mem_filter.mp stands
  exact ⟨page, got, record, stands, of_decide_eq_true hid, of_decide_eq_true guid⟩

variable (service request)

/-- `request_redelivery` makes only calls it may make, and ends as it may end. -/
theorem requestRedelivery_meets :
    Meets (MayCall service request) (Ended service request)
      (service.requestRedelivery request) [] := by
  have raises : ∀ {e : AppError}, RedeliveryFailure service request [] e →
      Ended service request [] (.error e) :=
    fun failure => ⟨failure, fun faulted => absurd rfl faulted⟩
  rw [GitHubRedeliveryService.requestRedelivery]
  by_cases hon : (!service.enabled || !service.hasGithubRedeliveryClient) = true
  · rw [if_pos hon, Program.throw_eq, meets_raise]
    exact raises .disabled
  rw [if_neg hon]
  by_cases hcapability : request.authorization.capability ≠ .recoveryExecute
  · rw [if_pos hcapability, Program.throw_eq, meets_raise]
    exact raises .disabled
  rw [if_neg hcapability]
  have admitted : Admitted service request := by
    simp only [Bool.or_eq_true, Bool.not_eq_true', not_or, Bool.not_eq_false] at hon
    exact ⟨hon.1, hon.2, not_not.mp hcapability⟩
  cases coordinates : repositoryCoordinates request.attempt with
  | error e =>
      rw [Program.ofExcept_error, Program.raise_bind, meets_raise]
      exact raises (.search admitted (.target coordinates))
  | ok target =>
      obtain ⟨owner, repository⟩ := target
      rw [Program.ofExcept_ok, Program.ret_bind, meets_bind]
      refine meets_mono (fun h c may => ?_) (fun h r searched => ?_)
        (reconcile_meets service.reconciliationService request.attempt none)
      · obtain ⟨owner', repository', start, coordinates', resumed, may⟩ := may
        cases resumed
        obtain ⟨-, -, -, path, cursor, rfl⟩ := id may
        exact ⟨may.1.faults, owner', repository', coordinates', may⟩
      · obtain ⟨only, bounded, result⟩ := searched
        cases r with
        | error e => exact ⟨.search admitted result, fun faulted => absurd only.faults faulted⟩
        | ok result' =>
            obtain ⟨owner', repository', start, pages, coordinates', resumed, searched,
              concludes⟩ := result
            cases resumed
            obtain ⟨rfl, rfl⟩ : owner = owner' ∧ repository = repository' := by
              rw [coordinates] at coordinates'
              cases coordinates'
              exact ⟨rfl, rfl⟩
            dsimp only
            split
            · next found =>
                refine submitVerified_meets only
                  ⟨admitted, coordinates, bounded, pages, searched, concludes.verifies found⟩
            · exact ⟨.unverified, fun faulted => absurd only.faults faulted⟩

end WebhookMonitor
