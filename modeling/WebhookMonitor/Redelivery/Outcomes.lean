import WebhookMonitor.Persistence.Postgres
import WebhookMonitor.Redelivery.Specification

/-!
# What the outcome of a redelivery tells of its POST

`request_redelivery` returns or raises; `RedeliveryOutcome` says what that tells of the POST:

* a request that raised before its POST has sent none;
* a request that returned has had it accepted, and has finalized its entry so;
* the error of the client is raised again, once the entry is finalized with it;
* a failed finalization hides what became of the POST, and leaves the entry open.

`RecoveryActionStore.Raises` is what the last one needs of a store: which errors its
`finalize` raises.
-/

namespace WebhookMonitor

open Python Interaction

/-! ## What `finalize` raises -/

/-- A journal refuses to finalize an entry. -/
inductive Refusal : AppError → Prop where
  | notFound (message : String) : Refusal (.recoveryActionNotFound message)
  | transition (message : String) : Refusal (.invalidRecoveryActionTransition message)

/-- `finalize` raises the store error or a refusal, or what its one call has answered. -/
def RecoveryActionStore.Raises (store : RecoveryActionStore) : Prop :=
  ∀ request h, Meets (fun _ _ => True)
    (fun h' r => ∀ e, r = .error e → (∃ message, e = .recoveryActionStore message) ∨ Refusal e ∨
      (⟨.finalizeEntry request, .error e⟩ : Event Effects) ∈ h')
    (store.finalize request) h

theorem inMemoryRecoveryActionStore_raises : inMemoryRecoveryActionStore.Raises := by
  intro request h
  refine ⟨trivial, fun result => meets_ofExcept.mpr fun e raised => ?_⟩
  subst raised
  exact .inr (.inr (List.mem_append_right _ (List.mem_singleton_self _)))

theorem postgresRecoveryActionStore_raises : postgresRecoveryActionStore.Raises := by
  intro request h
  dsimp only [postgresRecoveryActionStore]
  cases RecoveryActionState.terminalOfText request.state with
  | none =>
      rintro e ⟨⟩
      exact .inr (.inl (.transition _))
  | some state =>
      refine ⟨trivial, fun updated => ?_⟩
      rcases updated with _ | _ | row
      · rintro e ⟨⟩
        exact .inl ⟨_, rfl⟩
      · -- the `SELECT` only tells the two refusals apart
        refine ⟨trivial, fun existing => ?_⟩
        rcases existing with _ | _ | state'
        · rintro e ⟨⟩
          exact .inl ⟨_, rfl⟩
        · rintro e ⟨⟩
          exact .inr (.inl (.notFound _))
        · rintro e ⟨⟩
          exact .inr (.inl (.transition _))
      · rintro e ⟨⟩

/-! ## Outcomes -/

variable {service : GitHubRedeliveryService} {request : RedeliveryRequest}
  {owner repository : Str} {h : History}

/-- What `_finalize_action` raises, when it raises: the entry was not finalized. -/
def LeftOpen (h : History) (e : AppError) : Prop :=
  finalizations h = [] ∧ ((∃ message, e = .gitHubRedeliveryJournalUnavailable message) ∨
    Refusal e ∨ ∃ r, (⟨.finalizeEntry r, .error e⟩ : Event Effects) ∈ h)

/-- What an outcome tells of the POST. -/
inductive RedeliveryOutcome (h : History) : Except AppError GitHubRedeliveryResult → Prop where
  | unsent {e : AppError} (none_sent : submissions h = []) : RedeliveryOutcome h (.error e)
  | accepted {result : GitHubRedeliveryResult} {submission : Submission} {fin : FinalizeRequest}
      (sent : submissions h = [submission])
      (accepted : submissionOutcome submission.answer = .ok ())
      (finalized : finalizations h = [fin]) (named : fin.actionId = result.actionId)
      (state : fin.state = RecoveryActionState.accepted.text)
      (status : result.status = Str.lit "accepted") : RedeliveryOutcome h (.ok result)
  | failed {submission : Submission} {e : AppError} (sent : submissions h = [submission])
      (failed : submissionOutcome submission.answer = .error e) : RedeliveryOutcome h (.error e)
  | leftOpen {submission : Submission} {e : AppError} (sent : submissions h = [submission])
      (open_ : LeftOpen h e) : RedeliveryOutcome h (.error e)

/-- `_finalize_action` submits nothing, and either finalizes or leaves the entry open. -/
theorem finalizeAction_tells {actionId : UUID} {state : RecoveryActionState} {status : Option ℤ}
    {category : Option Str} (raises : service.recoveryActionStore.Raises)
    (none_finalized : finalizations h = []) :
    Meets (fun _ _ => True)
      (fun h' r => submissions h' = submissions h ∧ match r with
        | .ok _ => ∃ fin, finalizations h' = [fin] ∧ fin.actionId = actionId ∧
            fin.state = state.text
        | .error e => LeftOpen h' e)
      (service.finalizeAction actionId state status category) h := by
  rw [GitHubRedeliveryService.finalizeAction, meets_journalUnavailable, nowUtc_bind]
  refine ⟨trivial, fun wall => ?_⟩
  dsimp only
  generalize hfin : (⟨actionId, state.text, AwareDatetime.utc wall, status, category⟩ :
    FinalizeRequest) = fin
  have unfinalized : finalizations (h ++ [(⟨.now, wall⟩ : Event Effects)]) = [] :=
    (shown_of_none finalizationOf rfl h).trans none_finalized
  have unsent : submissions (h ++ [(⟨.now, wall⟩ : Event Effects)]) = submissions h :=
    shown_of_none submissionOf rfl h
  rw [meets_bind]
  refine meets_mono (fun _ _ _ => trivial) (fun h' r ended => ?_)
    (meets_and (service.recoveryActionStore.finalize_meets fin _) (raises fin _))
  obtain ⟨⟨same, result⟩, raised⟩ := ended
  have submissions_eq := same.submissions.trans unsent
  cases r with
  | ok row =>
      refine ⟨submissions_eq, fin, ?_, by rw [← hfin], by rw [← hfin]⟩
      rw [result.1, unfinalized, List.nil_append]
  | error e =>
      refine ⟨submissions_eq, result.1.trans unfinalized, ?_⟩
      -- the store error is wrapped, and every other error passes
      cases e with
      | recoveryActionStore message => exact .inl ⟨_, rfl⟩
      | _ =>
          rcases raised _ rfl with ⟨message, same⟩ | refusal | answered
          · cases same
          · exact .inr (.inl refusal)
          · exact .inr (.inr ⟨fin, answered⟩)

/-- The `except` clauses around the POST raise its error again, or leave the entry open. -/
theorem finalizeFailure_tells {actionId : UUID} {submission : Submission} {e : AppError}
    (raises : service.recoveryActionStore.Raises) (sent : submissions h = [submission])
    (none_finalized : finalizations h = [])
    (failed : submissionOutcome submission.answer = .error e) :
    Meets (fun _ _ => True)
      (fun h' r => match r with
        | .ok _ => False
        | .error e' => RedeliveryOutcome h' (.error e'))
      (service.finalizeFailure actionId e) h := by
  -- a clause that finalizes first
  have clause : ∀ (state : RecoveryActionState) (status : Option ℤ) (category : Option Str),
      Meets (fun _ _ => True)
        (fun h' r => match r with
          | .ok _ => False
          | .error e' => RedeliveryOutcome h' (.error e'))
        (service.finalizeAction actionId state status category >>= fun _ =>
          (throw e : Action Unit)) h := by
    intro state status category
    rw [meets_bind]
    refine meets_mono (fun _ _ => id) (fun h' r ended => ?_)
      (finalizeAction_tells raises none_finalized)
    obtain ⟨same, result⟩ := ended
    cases r with
    | ok _ => exact .failed (same.trans sent) failed
    | error e' => exact .leftOpen (same.trans sent) result
  cases e with
  | gitHubRedeliveryOutcomeUnknown error => exact clause .outcomeUnknown _ _
  | gitHubUpstreamProtocol error => exact clause .failed _ _
  | gitHubUpstreamUnavailable error => exact clause .failed _ _
  | _ => exact .failed sent failed

/-- Submit and finalize. -/
theorem submitJournalled_tells {returned : RecoveryAction}
    (raises : service.recoveryActionStore.Raises) (none_sent : submissions h = [])
    (none_finalized : finalizations h = []) :
    Meets (fun _ _ => True) RedeliveryOutcome (do
        tryCatch
          (requestRepositoryWebhookRedelivery owner repository
            request.attempt.deliveryIdentity.hookId request.githubDeliveryId)
          (service.finalizeFailure returned.actionId)
        service.finalizeAction returned.actionId .accepted (some 202) none
        return { actionId := returned.actionId, attempt := request.attempt,
                 githubDeliveryId := request.githubDeliveryId, status := "accepted" }) h := by
  rw [meets_bind, meets_tryCatch, requestRepositoryWebhookRedelivery]
  cases repositoryRedeliveryPath owner repository request.attempt.deliveryIdentity.hookId
      request.githubDeliveryId with
  | error e => exact .unsent none_sent
  | ok path =>
      rw [uncaught_ok, Program.ofExcept_ok, Program.ret_bind, invoke_bind]
      refine ⟨trivial, fun answer => meets_ofExcept.mpr ?_⟩
      have sent : submissions (h ++ [(⟨.httpPost path, answer⟩ : Event Effects)]) =
          [⟨path, answer⟩] := by
        rw [submissions_append, none_sent]
        rfl
      have unfinalized : finalizations (h ++ [(⟨.httpPost path, answer⟩ : Event Effects)]) = [] :=
        (shown_of_none finalizationOf rfl h).trans none_finalized
      cases outcome : submissionOutcome answer with
      | error e =>
          refine meets_mono (fun _ _ => id) (fun h' r ended => ?_)
            (finalizeFailure_tells raises sent unfinalized outcome)
          cases r with
          | ok _ => exact ended.elim
          | error e' => exact ended
      | ok _ =>
          dsimp only
          rw [meets_bind]
          refine meets_mono (fun _ _ => id) (fun h' r ended => ?_)
            (finalizeAction_tells raises unfinalized)
          obtain ⟨same, result⟩ := ended
          cases r with
          | ok _ =>
              obtain ⟨fin, finalized, named, state⟩ := result
              exact .accepted (same.trans sent) outcome finalized named state rfl
          | error e' => exact .leftOpen (same.trans sent) result

/-- Every outcome of a request tells what became of its POST. -/
theorem requestRedelivery_tells (raises : service.recoveryActionStore.Raises)
    (request : RedeliveryRequest) :
    Meets (fun _ _ => True) RedeliveryOutcome (service.requestRedelivery request) [] := by
  rw [GitHubRedeliveryService.requestRedelivery]
  split_ifs
  · exact .unsent rfl
  · exact .unsent rfl
  cases repositoryCoordinates request.attempt with
  | error e => exact .unsent rfl
  | ok target =>
      rw [Program.ofExcept_ok, Program.ret_bind, meets_bind]
      refine meets_mono (fun _ _ _ => trivial) (fun h r searched => ?_)
        (reconcile_meets service.reconciliationService request.attempt none)
      obtain ⟨only, -⟩ := searched
      cases r with
      | error e => exact .unsent only.submissions
      | ok result =>
          dsimp only
          split_ifs
          · rw [GitHubRedeliveryService.submitVerified, meets_bind, meets_journalUnavailable,
              nowUtc_bind]
            refine ⟨trivial, fun wall => ?_⟩
            dsimp only
            refine meets_mono (fun _ _ _ => trivial) (fun h' r created => ?_)
              (service.recoveryActionStore.create_meets _ _)
            obtain ⟨same, -⟩ := created
            have none_sent : submissions h' = [] :=
              same.submissions.trans ((shown_of_none submissionOf rfl h).trans only.submissions)
            have none_finalized : finalizations h' = [] :=
              same.finalizations.trans
                ((shown_of_none finalizationOf rfl h).trans only.finalizations)
            cases r with
            | error e => exact .unsent none_sent
            | ok returned => exact submitJournalled_tells raises none_sent none_finalized
          · exact .unsent only.submissions

end WebhookMonitor
