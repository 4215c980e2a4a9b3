import WebhookMonitor.Application.Answers

/-!
# What the answer of a redelivery tells

A client of the redelivery route sees an HTTP answer, and has to decide whether it may ask
again.  `AnswerTells` says what the answer tells of the POST, and the POST of the answer:

* `AppError.httpStatus` — the status of an answer that is an error;
* `submissionError_of_outcome`, `isAccepted_of_outcome` — what the client of GitHub makes of the
  answer to its POST;
* `redelivery_answer_tells` — it holds of every redelivery of every run.
-/

namespace WebhookMonitor

open Python Interaction ApplicationCall

variable {κ : Type}

/-! ## Errors -/

/-- The status of an error; the framework answers 500 to one that nothing catches. -/
def AppError.httpStatus : AppError → ℕ
  | .httpException statusCode _ => statusCode
  | .httpChallenge statusCode _ _ => statusCode
  | _ => 500

/-- The answer that asks the client to reconcile first. -/
def reconcileFirst : AppError :=
  .httpException 503
    "GitHub redelivery submission outcome could not be confirmed; reconcile before retrying"

/-- A request left its client, and nothing is known of what became of it. -/
def IsLost (answer : Except HttpClientError HttpResponse) : Prop :=
  ∃ e, answer = .error e ∧ e.isConnectFailure = false ∧ e.isRequestError = true

/-- GitHub has accepted a submission. -/
def IsAccepted (answer : Except HttpClientError HttpResponse) : Prop :=
  ∃ response, answer = .ok response ∧ response.statusCode = 202

/-- GitHub has answered a submission, and not accepted it. -/
def IsRejected (answer : Except HttpClientError HttpResponse) : Prop :=
  ∃ response, answer = .ok response ∧ response.statusCode ≠ 202

/-- What the client of GitHub makes of the answer to its POST. -/
inductive SubmissionError (answer : Except HttpClientError HttpResponse) : AppError → Prop where
  | unavailable (error : GitHubUpstreamError) (known : ¬ IsAccepted answer ∧ ¬ IsLost answer) :
      SubmissionError answer (.gitHubUpstreamUnavailable error)
  | protocol (error : GitHubUpstreamError) (rejected : IsRejected answer) :
      SubmissionError answer (.gitHubUpstreamProtocol error)
  | lost (error : GitHubUpstreamError) (lost : IsLost answer) :
      SubmissionError answer (.gitHubRedeliveryOutcomeUnknown error)
  | other (known : ¬ IsAccepted answer ∧ ¬ IsLost answer) : SubmissionError answer .httpClient

theorem submissionError_of_outcome {answer : Except HttpClientError HttpResponse} {e : AppError}
    (failed : submissionOutcome answer = .error e) : SubmissionError answer e := by
  cases answer with
  | ok response =>
      have not_lost : ¬ IsLost (.ok response) := by
        rintro ⟨e, same, -⟩
        cases same
      rw [submissionOutcome, redeliveryOutcome] at failed
      by_cases accepted : response.statusCode = 202
      · simp only [accepted, if_true] at failed
        cases failed
      · have not_accepted : ¬ IsAccepted (.ok response) := by
          rintro ⟨response', same, status⟩
          cases same
          exact accepted status
        simp only [accepted, if_false] at failed
        split_ifs at failed
        · cases failed
          exact .unavailable _ ⟨not_accepted, not_lost⟩
        · cases failed
          exact .unavailable _ ⟨not_accepted, not_lost⟩
        · cases failed
          exact .protocol _ ⟨response, rfl, accepted⟩
  | error x =>
      have not_accepted : ¬ IsAccepted (.error x) := by
        rintro ⟨response, same, -⟩
        cases same
      rw [submissionOutcome] at failed
      split_ifs at failed with connect request
      · cases failed
        refine .unavailable _ ⟨not_accepted, ?_⟩
        rintro ⟨x', same, other, -⟩
        cases same
        rw [connect] at other
        cases other
      · cases failed
        exact .lost _ ⟨x, rfl, eq_false_of_ne_true connect, request⟩
      · cases failed
        refine .other ⟨not_accepted, ?_⟩
        rintro ⟨x', same, -, other⟩
        cases same
        exact request other

/-- And what it makes of an accepted one. -/
theorem isAccepted_of_outcome {answer : Except HttpClientError HttpResponse} {u : Unit}
    (succeeded : submissionOutcome answer = .ok u) : IsAccepted answer := by
  cases answer with
  | ok response =>
      rw [submissionOutcome, redeliveryOutcome] at succeeded
      by_cases accepted : response.statusCode = 202
      · exact ⟨response, rfl, accepted⟩
      · simp only [accepted, if_false] at succeeded
        split_ifs at succeeded
  | error x =>
      rw [submissionOutcome] at succeeded
      split_ifs at succeeded

/-! ## Answers -/

/-- What the answer of a redelivery tells of its POST, and the POST of the answer. -/
structure AnswerTells (h : History) (r : Except AppError Answer) : Prop where
  /-- A success: GitHub has accepted it, and the journal says so. -/
  success : ∀ answer, r = .ok answer → ∃ response submission fin,
    answer = .githubRedelivery response ∧ submissions h = [submission] ∧
    IsAccepted submission.answer ∧ finalizations h = [fin] ∧ fin.actionId = response.actionId ∧
    fin.state = RecoveryActionState.accepted.text
  /-- A client error: nothing has been submitted. -/
  refused : ∀ e, r = .error e → e.httpStatus < 500 → submissions h = []
  /-- 502: what has been submitted, GitHub has rejected. -/
  rejected : ∀ e, r = .error e → e.httpStatus = 502 → ∀ s ∈ submissions h, IsRejected s.answer
  /-- What GitHub has accepted is a success, or its entry is still open. -/
  accepted : ∀ s ∈ submissions h, IsAccepted s.answer →
    (∃ answer, r = .ok answer) ∨ finalizations h = []
  /-- Of what is lost the client is told so, or its entry is still open. -/
  lost : ∀ s ∈ submissions h, IsLost s.answer → r = .error reconcileFirst ∨ finalizations h = []

/-- A redelivery that has submitted nothing. -/
theorem answerTells_of_unsent {h : History} {e : AppError} (none_sent : submissions h = []) :
    AnswerTells h (.error e) where
  success := fun _ succeeded => (by cases succeeded)
  refused := fun _ _ _ => none_sent
  rejected := fun e' _ _ s mem => by rw [none_sent] at mem; cases mem
  accepted := fun s mem => by rw [none_sent] at mem; cases mem
  lost := fun s mem => by rw [none_sent] at mem; cases mem

/-- A redelivery that has failed on the way. -/
theorem answerTells_of_error {h : History} {e : AppError} (server : 500 ≤ e.httpStatus)
    (rejected : e.httpStatus = 502 → ∀ s ∈ submissions h, IsRejected s.answer)
    (accepted : ∀ s ∈ submissions h, IsAccepted s.answer → finalizations h = [])
    (lost : ∀ s ∈ submissions h, IsLost s.answer → e = reconcileFirst ∨ finalizations h = []) :
    AnswerTells h (.error e) where
  success := fun _ succeeded => by cases succeeded
  refused := by
    rintro _ ⟨⟩ client
    exact absurd client (Nat.not_lt.mpr server)
  rejected := by
    rintro _ ⟨⟩ status
    exact rejected status
  accepted := fun s mem isAccepted => .inr (accepted s mem isAccepted)
  lost := fun s mem isLost => (lost s mem isLost).imp_left (congrArg Except.error)

/-- A redelivery whose POST failed. -/
theorem answerTells_of_failed {h : History} {submission : Submission} {e : AppError}
    (sent : submissions h = [submission]) (failed : SubmissionError submission.answer e) :
    AnswerTells h (.error (redeliveryAnswer e)) := by
  have only : ∀ {P : Except HttpClientError HttpResponse → Prop}, P submission.answer →
      ∀ s ∈ submissions h, P s.answer := by
    intro P holds s mem
    rw [sent] at mem
    exact List.mem_singleton.mp mem ▸ holds
  cases failed with
  | unavailable error known | other known =>
      refine answerTells_of_error (Nat.le_of_ble_eq_true rfl) ?_ ?_ ?_
      · intro status
        cases status
      · exact fun s mem accepted => absurd accepted (only (P := (¬ IsAccepted ·)) known.1 s mem)
      · exact fun s mem lost => absurd lost (only (P := (¬ IsLost ·)) known.2 s mem)
  | protocol error rejected =>
      refine answerTells_of_error (Nat.le_of_ble_eq_true rfl) (fun _ => only rejected) ?_ ?_
      · rintro s mem ⟨response, answered, accepted⟩
        obtain ⟨response', answered', other⟩ := only rejected s mem
        cases answered.symm.trans answered'
        exact absurd accepted other
      · rintro s mem ⟨x, answered, -⟩
        obtain ⟨response, answered', -⟩ := only rejected s mem
        cases answered.symm.trans answered'
  | lost error lost =>
      refine answerTells_of_error (Nat.le_of_ble_eq_true rfl) ?_ ?_ (fun _ _ _ => .inl rfl)
      · intro status
        cases status
      · rintro s mem ⟨response, answered, -⟩
        obtain ⟨x, answered', -⟩ := only lost s mem
        cases answered.symm.trans answered'

/-- A redelivery whose entry was left open. -/
theorem answerTells_of_open {h : History} {e : AppError} (unfinalized : finalizations h = [])
    (raised : (∃ message, e = .gitHubRedeliveryJournalUnavailable message) ∨ Refusal e) :
    AnswerTells h (.error (redeliveryAnswer e)) := by
  have status : (redeliveryAnswer e).httpStatus = 503 ∨ (redeliveryAnswer e).httpStatus = 500 := by
    rcases raised with ⟨message, rfl⟩ | refusal
    · exact .inl rfl
    · cases refusal with
      | notFound | transition => exact .inr rfl
  refine answerTells_of_error (by omega) (fun exactly => by omega) (fun _ _ _ => unfinalized)
    (fun _ _ _ => .inr unfinalized)

/-- A redelivery that returned. -/
theorem answerTells_of_accepted {h : History} {result : GitHubRedeliveryResult}
    {submission : Submission} {fin : FinalizeRequest} (sent : submissions h = [submission])
    (accepted : IsAccepted submission.answer) (finalized : finalizations h = [fin])
    (named : fin.actionId = result.actionId) (state : fin.state = RecoveryActionState.accepted.text)
    (status : result.status = Str.lit "accepted")
    (guid : isScalar result.attempt.deliveryIdentity.deliveryGuid = true) :
    AnswerTells h (Application.answeredAs (.ok result)) := by
  have answered : Application.answeredAs (.ok result) =
      .ok (.githubRedelivery (Application.redeliveryResponse result)) := by
    have scalar : (GitHubRedeliveryResponse.texts
        (Application.redeliveryResponse result)).all isScalar = true := by
      change (isScalar result.attempt.deliveryIdentity.deliveryGuid &&
        (isScalar result.status && true)) = true
      rw [guid, status]
      rfl
    change (do
      let response ← render GitHubRedeliveryResponse.texts (Application.redeliveryResponse result)
      return Answer.githubRedelivery response) = _
    rw [render, if_pos scalar]
    rfl
  rw [answered]
  refine ⟨?_, fun _ failed => (by cases failed), fun _ failed => (by cases failed),
    fun _ _ _ => .inl ⟨_, rfl⟩, ?_⟩
  · rintro _ ⟨⟩
    exact ⟨_, submission, fin, rfl, sent, accepted, finalized, named, state⟩
  · rintro s mem ⟨x, lost, -⟩
    rw [sent] at mem
    obtain ⟨response, same, -⟩ := accepted
    rw [List.mem_singleton.mp mem, same] at lost
    cases lost

section Reachable

variable {self : Application κ} {deliveries : DeliveryBackend} {journal : JournalBackend}
  {ok : Requests κ deliveries journal → Label (ApplicationEffects κ) Request → Prop}
  {now : Monotonic} {cfg : Requests κ deliveries journal}

/-- The one call that finalizes in memory raises nothing but a refusal. -/
theorem reachable_refuses
    (reachable : (applicationSystem self deliveries journal).Reachable ok
      (SharedWorld.start deliveries journal now) cfg)
    {i : ℕ} {t : RequestThread κ} (running : cfg.threads i = some t) {r : FinalizeRequest}
    {e : AppError}
    (mem : (⟨.finalizeEntry r, .error e⟩ : Event Effects) ∈ serviceHistory t.history) :
    Refusal e := by
  obtain ⟨e', there, isService⟩ := List.mem_filterMap.mp mem
  refine System.Reachable.event
    (Q := fun e' => serviceEvent e' = some ⟨.finalizeEntry r, .error e⟩ → Refusal e)
    ?_ reachable running e' there isService
  intro cfg i request h c k a w before pending _ answered isService
  cases answered with
  | service answered =>
      cases isService
      exact journal.refuses answered
  | authenticator | store | journal | readinessCheck => cases isService

/-- The identifier of a received attempt is the one of a header. -/
theorem Received.isScalar_guid {attempt : DeliveryAttempt} (received : Received self cfg attempt) :
    isScalar attempt.deliveryIdentity.deliveryGuid = true := by
  obtain ⟨added, row, happened, reads⟩ := received
  obtain ⟨i, t, before, e, after, running, split, headers, chunks, attemptId, now, es, c, a, -, -,
    ⟨request, payload, accepts, isAttempt⟩, -⟩ := happened
  rw [(deliveries.same reads).deliveryIdentity, isAttempt.guid]
  have delivery := accepts.2.1.delivery
  cases header : headers.xGithubDelivery with
  | none =>
      rw [header] at delivery
      cases delivery
  | some value =>
      rw [header] at delivery
      rw [← Option.some.inj delivery]
      exact isScalar_of_isLatin1 value.property

end Reachable

/-- **The answer of a redelivery tells.** Of every redelivery request that has ended, in any
run of requests of all routes over any two backends, from empty stores: a success says that
GitHub has accepted the one POST and that the journal says so; an answer below 500 that nothing
was submitted; 502 that GitHub has rejected what was; and a POST that GitHub has accepted, or
of which nothing is known, is reported as such, or its entry is still open. -/
theorem redelivery_answer_tells (self : Application κ) (deliveries : DeliveryBackend)
    (journal : JournalBackend) {now : Monotonic} {cfg : Requests κ deliveries journal}
    (reachable : (applicationSystem self deliveries journal).Reachable (fun _ _ => True)
      (SharedWorld.start deliveries journal now) cfg)
    {i : ℕ} {t : RequestThread κ} (running : cfg.threads i = some t)
    {credentials : Option RequestCredentials} {attemptId githubDeliveryId : Str}
    (asked : t.request = .requestGithubRedelivery credentials attemptId githubDeliveryId)
    {r : Except AppError Answer} (ended : t.rest = Program.ofExcept r) :
    AnswerTells (serviceHistory t.history) r := by
  have ends := reachable_handle_meets reachable running
  rw [ended, meets_ofExcept, asked] at ends
  cases ends with
  | refused nothing => exact answerTells_of_unsent (by rw [nothing]; rfl)
  | requested found parsed ended tells =>
      have received := received_of_shown reachable running (shown_of_found found)
      obtain rfl := serviceHistory_of_found found
      cases tells with
      | unsent none_sent => exact answerTells_of_unsent none_sent
      | failed sent failed => exact answerTells_of_failed sent (submissionError_of_outcome failed)
      | leftOpen sent left =>
          refine answerTells_of_open left.1 ?_
          rcases left.2 with unavailable | refusal | ⟨r, answered⟩
          · exact .inl unavailable
          · exact .inr refusal
          · exact .inr (reachable_refuses reachable running answered)
      | accepted sent accepted finalized named state status =>
          obtain ⟨entry, -, -, same, -⟩ := ended
          exact answerTells_of_accepted sent (isAccepted_of_outcome accepted) finalized named state
            status (same ▸ received.isScalar_guid)

theorem redelivery_answer_tells_sample :
    ∃ (cfg : MemoryRequests) (t : RequestThread Members) (answer : Answer),
      cfg.threads 1 = some t ∧ t.rest = .ret answer ∧
      AnswerTells (serviceHistory t.history) (.ok answer) := by
  obtain ⟨cfg, reachable, returned, -, redelivers⟩ := exists_sampleRun
  obtain ⟨-, returned⟩ := List.cons.inj returned
  obtain ⟨t, answer, running, answered⟩ := Requests.exists_of_returned (List.cons.inj returned).1
  rw [running] at redelivers
  cases asked : t.request with
  | requestGithubRedelivery credentials attemptId githubDeliveryId =>
      exact ⟨cfg, t, answer, running, answered, redelivery_answer_tells sampleApplication
        (memoryDeliveries 1 Nat.one_pos) (memoryJournalBackend 1 Nat.one_pos) reachable running
        asked answered⟩
  | _ =>
      change t.request.redelivers = true at redelivers
      rw [asked] at redelivers
      cases redelivers

end WebhookMonitor
