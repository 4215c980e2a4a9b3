import Mathlib.Data.Finset.Card
import WebhookMonitor.Interaction.Schedule
import WebhookMonitor.Redelivery.Journals
import WebhookMonitor.Redelivery.Safety

/-!
# The journal tells what became of each POST

Requests run side by side over one journal, in memory or in PostgreSQL.

* `Concluded` — one call by itself: it finalizes at most once, and with what
  became of its one POST;
* `Coherent` — all calls and the journal: no identifier is issued to two calls,
  every row was stored by one call, and it reports what that call finalized;
* `reachable_coherent` — every reachable configuration is coherent;
* `journal_agrees` — so every row agrees with the POST of the call that stored
  it, whatever the order of the steps.
-/

namespace WebhookMonitor

open Python Interaction

/-- The service over a shared journal. -/
def GitHubRedeliveryService.over (service : GitHubRedeliveryService) (journal : SharedJournal) :
    GitHubRedeliveryService :=
  { service with recoveryActionStore := journal.store }

/-- Redelivery requests over one journal. -/
def redeliverySystem (service : GitHubRedeliveryService) (journal : SharedJournal) :
    System Effects AppError GitHubRedeliveryResult RedeliveryRequest journal.World where
  program := (service.over journal).requestRedelivery
  answers := journal.answers

/-! ## One call -/

/-- A call that has finalized its entry did so once, with what became of its one
POST. -/
def Concluded (h : History) : Prop :=
  finalizations h = [] ∨
    ∃ r entry submission, finalizations h = [r] ∧ stored h = [entry] ∧
      submissions h = [submission] ∧ r.actionId = entry.returned.actionId ∧
      Agrees submission.answer r

theorem Concluded.congr {h h' : History} (finalized : finalizations h' = finalizations h)
    (same_stored : stored h' = stored h) (same_submissions : submissions h' = submissions h)
    (concluded : Concluded h) : Concluded h' := by
  rw [Concluded, finalized, same_stored, same_submissions]
  exact concluded

/-- The step lemma: no call a request may make undoes it. -/
theorem concluded_snoc {service : GitHubRedeliveryService} {request : RedeliveryRequest}
    {h : History} {c : Call} (answer : c.Answer) (may : MayCall service request h c)
    (concluded : Concluded h) : Concluded (h ++ [⟨c, answer⟩]) := by
  -- a statement that finalizes, on a history with no finalization
  have conclude : ∀ {r : FinalizeRequest}, MayConclude h r →
      finalizationOf ⟨c, answer⟩ = some r → storedOf ⟨c, answer⟩ = none →
      submissionOf ⟨c, answer⟩ = none → Concluded (h ++ [⟨c, answer⟩]) := by
    intro r may shows not_stored not_submitted
    obtain ⟨entry, submission, journalled, sent, named, agrees, none_finalized⟩ := may
    refine .inr ⟨r, entry, submission, ?_, ?_, ?_, named, agrees⟩
    · exact (shown_of_some finalizationOf shows h).trans
        (by rw [← finalizations, none_finalized]; rfl)
    · exact (shown_of_none storedOf not_stored h).trans journalled
    · exact (shown_of_none submissionOf not_submitted h).trans sent
  cases c with
  | now | uuid4 | httpGet | selectState =>
      exact concluded.congr (shown_of_none finalizationOf rfl h) (shown_of_none storedOf rfl h)
        (shown_of_none submissionOf rfl h)
  | httpPost path =>
      obtain ⟨-, owner, repository, returned, -, -, -, none_finalized, -⟩ := may
      exact .inl ((shown_of_none finalizationOf rfl h).trans none_finalized)
  | appendLeft entry =>
      obtain ⟨-, owner, repository, requestedAt, id, -, -, -, -, none_finalized, -⟩ := may
      exact .inl ((shown_of_none finalizationOf rfl h).trans none_finalized)
  | insert entry =>
      obtain ⟨-, owner, repository, requestedAt, id, -, -, -, -, none_finalized, -⟩ := may
      refine .inl ((shown_of_none finalizationOf ?_ h).trans none_finalized)
      cases answer <;> rfl
  | finalizeEntry r =>
      cases answer with
      | ok row => exact conclude may.2 rfl rfl rfl
      | error e =>
          exact concluded.congr (shown_of_none finalizationOf rfl h) (shown_of_none storedOf rfl h)
            (shown_of_none submissionOf rfl h)
  | updateInitiated r state =>
      match answer with
      | .ok (some row) => exact conclude may.2.1 rfl rfl rfl
      | .ok none | .error e =>
          exact concluded.congr (shown_of_none finalizationOf rfl h) (shown_of_none storedOf rfl h)
            (shown_of_none submissionOf rfl h)

/-- What a row says about the call that stored it: nothing yet, or the outcome it
was finalized with. -/
def Reports (finalized : List FinalizeRequest) (row : RecoveryAction) : Prop :=
  match finalized with
  | [] => row.state = .initiated
  | r :: _ => RecoveryActionState.terminalOfText r.state = some row.state ∧
      row.upstreamStatusCode = r.upstreamStatusCode ∧ row.failureCategory = r.failureCategory

/-- The row agrees with what the history `h` of a call shows. -/
def RowAgrees (row : RecoveryAction) (h : History) : Prop :=
  match row.state with
  | .accepted => ∃ path response, submissions h = [⟨path, .ok response⟩] ∧
      response.statusCode = 202 ∧ row.upstreamStatusCode = some 202 ∧ row.failureCategory = none
  | .failed =>
      (∃ path response, submissions h = [⟨path, .ok response⟩] ∧ response.statusCode ≠ 202 ∧
        row.upstreamStatusCode = some response.statusCode) ∨
      ∃ path e, submissions h = [⟨path, .error e⟩] ∧ e.isConnectFailure = true ∧
        row.upstreamStatusCode = none
  | .outcomeUnknown => ∃ path e, submissions h = [⟨path, .error e⟩] ∧
      e.isRequestError = true ∧ e.isConnectFailure = false
  | .initiated => finalizations h = []

/-- A text that names a terminal state names no other. -/
theorem state_of_terminalOfText {s : Str} {state state' : RecoveryActionState}
    (h : RecoveryActionState.terminalOfText s = some state) (text : s = state'.text)
    (terminal : state'.isTerminal = true) : state = state' := by
  rw [text, RecoveryActionState.terminalOfText_text terminal] at h
  exact (Option.some.inj h).symm

/-- A row that reports what a call finalized agrees with its POST. -/
theorem rowAgrees_of_reports {row : RecoveryAction} {h : History} (concluded : Concluded h)
    (reports : Reports (finalizations h) row) : RowAgrees row h := by
  rcases concluded with none | ⟨r, entry, ⟨path, answer⟩, one, -, sent, -, agrees⟩
  · rw [none] at reports
    rw [RowAgrees, show row.state = .initiated from reports]
    exact none
  · rw [one] at reports
    obtain ⟨hstate, hstatus, hcategory⟩ := reports
    cases answer with
    | ok response =>
        rw [Agrees] at agrees
        split_ifs at agrees with h202
        · obtain ⟨text, status, category⟩ := agrees
          rw [RowAgrees, state_of_terminalOfText hstate text rfl]
          exact ⟨path, response, sent, h202, hstatus.trans status, hcategory.trans category⟩
        · obtain ⟨text, status, -⟩ := agrees
          rw [RowAgrees, state_of_terminalOfText hstate text rfl]
          exact .inl ⟨path, response, sent, h202, hstatus.trans status⟩
    | error e =>
        rw [Agrees] at agrees
        split_ifs at agrees with hconnect
        · obtain ⟨text, status, -⟩ := agrees
          rw [RowAgrees, state_of_terminalOfText hstate text rfl]
          exact .inr ⟨path, e, sent, hconnect, hstatus.trans status⟩
        · obtain ⟨hrequest, text, -, -⟩ := agrees
          rw [RowAgrees, state_of_terminalOfText hstate text rfl]
          exact ⟨path, e, sent, hrequest, eq_false_of_ne_true hconnect⟩

/-! ## All calls and the journal -/

/-- The rows, the identifiers given `out`, and by call what it was issued, stored
and finalized. -/
structure Coherent (rows : List RecoveryAction) (out : Finset UUID) (ids : ℕ → List UUID)
    (entries : ℕ → List Stored) (finalized : ℕ → List FinalizeRequest) : Prop where
  distinct : (rows.map (·.actionId)).Nodup
  issued : ∀ i, ∀ id ∈ ids i, id ∈ out
  single : ∀ i j id, id ∈ ids i → id ∈ ids j → i = j
  named : ∀ i, ∀ s ∈ entries i, s.returned.actionId ∈ ids i
  owned : ∀ row ∈ rows, ∃ i s, entries i = [s] ∧ s.returned.actionId = row.actionId ∧
    Reports (finalized i) row

namespace Coherent

variable {rows : List RecoveryAction} {out : Finset UUID} {ids : ℕ → List UUID}
  {entries : ℕ → List Stored} {finalized : ℕ → List FinalizeRequest}

/-- Only call `i` can have stored a row under an identifier of call `i`. -/
theorem owner_eq (coherent : Coherent rows out ids entries finalized) {i j : ℕ} {id : UUID}
    {s : Stored} (mine : id ∈ ids i) (theirs : entries j = [s])
    (hid : s.returned.actionId = id) : j = i := by
  have named := coherent.named j s (by rw [theirs]; exact List.mem_singleton_self s)
  exact coherent.single j i id (hid ▸ named) mine

/-- A row reports what the call that stored it finalized. -/
theorem reports (coherent : Coherent rows out ids entries finalized) {i : ℕ} {s : Stored}
    {row : RecoveryAction} (mem : row ∈ rows) (mine : entries i = [s])
    (hid : s.returned.actionId = row.actionId) : Reports (finalized i) row := by
  obtain ⟨j, s', theirs, hid', reports⟩ := coherent.owned row mem
  have named := coherent.named i s (by rw [mine]; exact List.mem_singleton_self s)
  obtain rfl := coherent.owner_eq named theirs (hid'.trans hid.symm)
  exact reports

theorem issue (coherent : Coherent rows out ids entries finalized) {id : UUID} (fresh : id ∉ out)
    (i : ℕ) :
    Coherent rows (insert id out) (Function.update ids i (ids i ++ [id])) entries finalized := by
  -- what call `i` has afterwards is the new identifier, or was there
  have new_or_old : ∀ {j id'}, id' ∈ Function.update ids i (ids i ++ [id]) j →
      (j = i ∧ id' = id) ∨ id' ∈ ids j := by
    intro j id' mem
    by_cases hij : j = i
    · subst hij
      rw [Function.update_self, List.mem_append, List.mem_singleton] at mem
      exact mem.elim .inr fun h => .inl ⟨rfl, h⟩
    · rw [Function.update_of_ne hij] at mem
      exact .inr mem
  have old : ∀ {j id'}, id' ∈ ids j → id' ∈ Function.update ids i (ids i ++ [id]) j := by
    intro j id' mem
    by_cases hij : j = i
    · subst hij
      rw [Function.update_self]
      exact List.mem_append_left _ mem
    · rw [Function.update_of_ne hij]
      exact mem
  refine ⟨coherent.distinct, ?_, ?_, fun j s mem => old (coherent.named j s mem), coherent.owned⟩
  · intro j id' mem
    rcases new_or_old mem with ⟨-, rfl⟩ | mem
    · exact Finset.mem_insert_self _ _
    · exact Finset.mem_insert_of_mem (coherent.issued j id' mem)
  · intro j k id' hj hk
    rcases new_or_old hj with ⟨hji, hid⟩ | oldj
    · rcases new_or_old hk with ⟨hki, -⟩ | oldk
      · exact hji.trans hki.symm
      · exact absurd (hid ▸ coherent.issued k _ oldk) fresh
    · rcases new_or_old hk with ⟨-, hid⟩ | oldk
      · exact absurd (hid ▸ coherent.issued j _ oldj) fresh
      · exact coherent.single j k id' oldj oldk

theorem store (coherent : Coherent rows out ids entries finalized) {i : ℕ} {s : Stored}
    {rows' : List RecoveryAction} (mine : s.returned.actionId ∈ ids i) (first : entries i = [])
    (unfinalized : finalized i = []) (initiated : s.returned.state = .initiated)
    (kept : rows'.Sublist (s.returned :: rows)) :
    Coherent rows' out ids (Function.update entries i (entries i ++ [s])) finalized := by
  -- a row with this identifier would be owned by a call that has stored nothing
  have fresh : s.returned.actionId ∉ rows.map (·.actionId) := by
    intro mem
    obtain ⟨row, hrow, hid⟩ := List.mem_map.mp mem
    obtain ⟨j, s', theirs, hid', -⟩ := coherent.owned row hrow
    obtain rfl := coherent.owner_eq mine theirs (hid'.trans hid)
    rw [first] at theirs
    cases theirs
  refine ⟨?_, coherent.issued, coherent.single, ?_, ?_⟩
  · refine (kept.map _).nodup ?_
    rw [List.map_cons, List.nodup_cons]
    exact ⟨fresh, coherent.distinct⟩
  · intro j s' mem
    by_cases hij : j = i
    · subst hij
      rw [Function.update_self, first, List.nil_append, List.mem_singleton] at mem
      exact mem ▸ mine
    · rw [Function.update_of_ne hij] at mem
      exact coherent.named j s' mem
  · intro row mem
    rcases List.mem_cons.mp (kept.subset mem) with rfl | mem
    · refine ⟨i, s, ?_, rfl, ?_⟩
      · rw [Function.update_self, first, List.nil_append]
      · rw [unfinalized]
        exact initiated
    · obtain ⟨j, s', theirs, hid, reports⟩ := coherent.owned row mem
      have hij : j ≠ i := by
        rintro rfl
        rw [first] at theirs
        cases theirs
      exact ⟨j, s', by rw [Function.update_of_ne hij, theirs], hid, reports⟩

theorem finalize (coherent : Coherent rows out ids entries finalized) {i : ℕ} {s : Stored}
    {r : FinalizeRequest} {new : RecoveryAction} (mine : entries i = [s])
    (named : r.actionId = s.returned.actionId) (unfinalized : finalized i = [])
    (new_named : new.actionId = r.actionId) (reports : Reports [r] new) :
    Coherent (replaceRow r.actionId new rows) out ids entries
      (Function.update finalized i (finalized i ++ [r])) := by
  refine ⟨?_, coherent.issued, coherent.single, coherent.named, ?_⟩
  · rw [replaceRow_actionIds new_named]
    exact coherent.distinct
  · intro row mem
    rcases mem_replaceRow mem with rfl | ⟨mem, hid⟩
    · refine ⟨i, s, mine, (new_named.trans named).symm, ?_⟩
      rw [Function.update_self, unfinalized]
      exact reports
    · obtain ⟨j, s', theirs, hid', reports'⟩ := coherent.owned row mem
      have hij : j ≠ i := by
        rintro rfl
        rw [mine] at theirs
        cases theirs
        exact hid (hid'.symm.trans named.symm)
      exact ⟨j, s', theirs, hid', by rwa [Function.update_of_ne hij]⟩

end Coherent

/-! ## Every reachable configuration -/

variable {service : GitHubRedeliveryService} {journal : SharedJournal}
  {ok : Config Effects AppError GitHubRedeliveryResult RedeliveryRequest journal.World →
    Label Effects RedeliveryRequest → Prop}
  {world : journal.World}
  {cfg : Config Effects AppError GitHubRedeliveryResult RedeliveryRequest journal.World}

/-- Every call keeps to what a redelivery request may do. -/
theorem reachable_meets (reachable : (redeliverySystem service journal).Reachable ok world cfg)
    {i : ℕ} {t : Thread Effects AppError GitHubRedeliveryResult RedeliveryRequest}
    (running : cfg.threads i = some t) :
    Meets (MayCall (service.over journal) t.request) (Ended (service.over journal) t.request)
      t.rest t.history :=
  reachable.meets (fun request => requestRedelivery_meets (service.over journal) request) running

theorem reachable_concluded (reachable : (redeliverySystem service journal).Reachable ok world cfg)
    {i : ℕ} {t : Thread Effects AppError GitHubRedeliveryResult RedeliveryRequest}
    (running : cfg.threads i = some t) : Concluded t.history := by
  have := (requestRedelivery_meets (service.over journal) t.request).history_invariant
    (P := Concluded) (fun answer may concluded => concluded_snoc answer may concluded)
    (reachable.trace running) (.inl rfl)
  simpa using this

/-- What a call stores, the first thing it stores, is an initiated entry under one
of its identifiers. -/
theorem MayCall.store {request : RedeliveryRequest} {h : History} {c : Call} {a : c.Answer}
    {s : Stored} (may : MayCall service request h c) (shows : storedOf ⟨c, a⟩ = some s) :
    stored h = [] ∧ finalizations h = [] ∧ s.entry.actionId ∈ issued h ∧
      s.entry.state = .initiated := by
  cases c with
  | appendLeft entry =>
      cases shows
      obtain ⟨-, owner, repository, requestedAt, id, hid, -, none_stored, -, none_finalized, rfl⟩ :=
        may
      exact ⟨none_stored, none_finalized, hid, rfl⟩
  | insert entry =>
      obtain ⟨-, owner, repository, requestedAt, id, hid, -, none_stored, -, none_finalized, rfl⟩ :=
        may
      cases a with
      | ok row => cases shows; exact ⟨none_stored, none_finalized, hid, rfl⟩
      | error e => cases shows
  | now | uuid4 | httpGet | httpPost | finalizeEntry | updateInitiated | selectState =>
      cases shows

/-- What a call finalizes is the entry it stored. -/
theorem MayCall.finalize {request : RedeliveryRequest} {h : History} {c : Call} {a : c.Answer}
    {r : FinalizeRequest} (may : MayCall service request h c)
    (shows : finalizationOf ⟨c, a⟩ = some r) : MayConclude h r := by
  cases c with
  | finalizeEntry r' =>
      cases a with
      | ok row => cases shows; exact may.2
      | error e => cases shows
  | updateInitiated r' state =>
      match a, shows with
      | .ok (some row), rfl => exact may.2.1
  | now | uuid4 | httpGet | httpPost | appendLeft | insert | selectState => cases shows

/-- An answer shows at most one of the three. -/
theorem shows_store {e : Event Effects} {s : Stored} (shows : storedOf e = some s) :
    issuedOf e = none ∧ finalizationOf e = none := by
  obtain ⟨c, a⟩ := e
  cases c with
  | appendLeft entry => exact ⟨rfl, rfl⟩
  | insert entry => cases a <;> exact ⟨rfl, rfl⟩
  | now | uuid4 | httpGet | httpPost | finalizeEntry | updateInitiated | selectState => cases shows

theorem shows_finalization {e : Event Effects} {r : FinalizeRequest}
    (shows : finalizationOf e = some r) : issuedOf e = none ∧ storedOf e = none := by
  obtain ⟨c, a⟩ := e
  cases c with
  | finalizeEntry r' => exact ⟨rfl, rfl⟩
  | updateInitiated r' state => exact ⟨rfl, rfl⟩
  | now | uuid4 | httpGet | httpPost | appendLeft | insert | selectState => cases shows

theorem coherent_initial (empty : journal.rows world = []) :
    Coherent (journal.rows world) (journal.issued world)
      ((Config.initial world : Config Effects AppError GitHubRedeliveryResult RedeliveryRequest
        journal.World).shown issuedOf)
      ((Config.initial world : Config Effects AppError GitHubRedeliveryResult RedeliveryRequest
        journal.World).shown storedOf)
      ((Config.initial world : Config Effects AppError GitHubRedeliveryResult RedeliveryRequest
        journal.World).shown finalizationOf) := by
  refine ⟨?_, ?_, ?_, ?_, ?_⟩
  · rw [empty]
    exact List.nodup_nil
  · intro i id mem
    rw [Config.shown_initial] at mem
    cases mem
  · intro i j id mem
    rw [Config.shown_initial] at mem
    cases mem
  · intro i s mem
    rw [Config.shown_initial] at mem
    cases mem
  · intro row mem
    rw [empty] at mem
    cases mem

/-- **The step lemma**: an answer to a call that keeps to what it may do. -/
theorem coherent_answer {i : ℕ} {request : RedeliveryRequest} {h : History} {c : Call}
    {k : c.Answer → Action GitHubRedeliveryResult} {a : c.Answer} {world' : journal.World}
    (coherent : Coherent (journal.rows cfg.world) (journal.issued cfg.world) (cfg.shown issuedOf)
      (cfg.shown storedOf) (cfg.shown finalizationOf))
    (pending : cfg.threads i = some ⟨request, h, .call c k⟩)
    (may : MayCall (service.over journal) request h c)
    (answered : journal.answers cfg.world c a world') :
    Coherent (journal.rows world') (journal.issued world')
      ((cfg.set world' i ⟨request, h ++ [⟨c, a⟩], k a⟩).shown issuedOf)
      ((cfg.set world' i ⟨request, h ++ [⟨c, a⟩], k a⟩).shown storedOf)
      ((cfg.set world' i ⟨request, h ++ [⟨c, a⟩], k a⟩).shown finalizationOf) := by
  have shown_stored : cfg.shown storedOf i = stored h := Config.shown_of_running pending
  have shown_finalized : cfg.shown finalizationOf i = finalizations h :=
    Config.shown_of_running pending
  have shown_issued : cfg.shown issuedOf i = issued h := Config.shown_of_running pending
  -- one case for each step of a journal; the other histories stay
  have jstep := journal.steps coherent.distinct answered
  generalize journal.rows world' = rows' at jstep ⊢
  generalize journal.issued world' = out' at jstep ⊢
  generalize he : (⟨c, a⟩ : Event Effects) = e at jstep ⊢
  cases jstep with
  | @issue id fresh =>
      rw [Config.shown_answer_some (b := id) pending rfl, Config.shown_answer_none pending rfl,
        Config.shown_answer_none pending rfl]
      exact coherent.issue fresh i
  | store shows denotes kept =>
      obtain ⟨none_stored, none_finalized, hid, initiated⟩ := may.store (he ▸ shows)
      obtain ⟨not_issued, not_finalized⟩ := shows_store shows
      rw [Config.shown_answer_none pending not_issued, Config.shown_answer_some pending shows,
        Config.shown_answer_none pending not_finalized]
      refine coherent.store ?_ (shown_stored.trans none_stored)
        (shown_finalized.trans none_finalized) (denotes.state.trans initiated) kept
      rw [shown_issued, denotes.actionId]
      exact hid
  | finalize shows present named initiated terminal denotes =>
      obtain ⟨entry, submission, journalled, -, hid, -, none_finalized⟩ :=
        may.finalize (he ▸ shows)
      obtain ⟨not_issued, not_stored⟩ := shows_finalization shows
      rw [Config.shown_answer_none pending not_issued,
        Config.shown_answer_none pending not_stored, Config.shown_answer_some pending shows]
      exact coherent.finalize (shown_stored.trans journalled) hid
        (shown_finalized.trans none_finalized) (denotes.actionId.trans named)
        ⟨by rw [denotes.state]; exact terminal, denotes.upstreamStatusCode,
          denotes.failureCategory⟩
  | idle not_issued not_stored not_finalized =>
      rw [Config.shown_answer_none pending not_issued,
        Config.shown_answer_none pending not_stored,
        Config.shown_answer_none pending not_finalized]
      exact coherent

/-- **The run lemma**: over a journal that starts empty, every reachable
configuration is coherent. -/
theorem reachable_coherent (empty : journal.rows world = [])
    (reachable : (redeliverySystem service journal).Reachable ok world cfg) :
    Coherent (journal.rows cfg.world) (journal.issued cfg.world) (cfg.shown issuedOf)
      (cfg.shown storedOf) (cfg.shown finalizationOf) := by
  refine System.Reachable.invariant (P := fun cfg => Coherent (journal.rows cfg.world)
    (journal.issued cfg.world) (cfg.shown issuedOf) (cfg.shown storedOf)
    (cfg.shown finalizationOf)) (coherent_initial empty) ?_ reachable
  intro cfg l cfg' before coherent step _
  cases step with
  | spawn request free =>
      rw [Config.shown_spawn free, Config.shown_spawn free, Config.shown_spawn free]
      exact coherent
  | answer pending answered =>
      exact coherent_answer coherent pending (reachable_meets before pending).1 answered

/-! ## Agreement -/

/-- The history of the call that stored the entry with this identifier. -/
def Stores (h : History) (actionId : UUID) : Prop :=
  ∃ s, stored h = [s] ∧ s.returned.actionId = actionId

/-- The rows and the calls agree. -/
structure JournalAgrees (journal : SharedJournal)
    (cfg : Config Effects AppError GitHubRedeliveryResult RedeliveryRequest journal.World) :
    Prop where
  /-- Each row was stored by exactly one call. -/
  creator : ∀ row ∈ journal.rows cfg.world, ∃ i t, cfg.threads i = some t ∧
    Stores t.history row.actionId ∧
    ∀ j t', cfg.threads j = some t' → Stores t'.history row.actionId → j = i
  /-- The state of a row is that of the POST of its call. -/
  agrees : ∀ row ∈ journal.rows cfg.world, ∀ i t, cfg.threads i = some t →
    Stores t.history row.actionId → RowAgrees row t.history
  /-- A call returns only with its entry accepted. -/
  returned : ∀ i t result, cfg.threads i = some t → t.rest = .ret result →
    Stores t.history result.actionId ∧
    (∃ fin, finalizations t.history = [fin] ∧
      fin.state = RecoveryActionState.accepted.text) ∧
    ∀ row ∈ journal.rows cfg.world, row.actionId = result.actionId → row.state = .accepted
  /-- A call whose finalization failed says so, and its entry stays as it was. -/
  faulted : ∀ i t, cfg.threads i = some t → faults t.history ≠ [] →
    (∃ message, t.rest = .raise (.gitHubRedeliveryJournalUnavailable message)) ∧
    ∀ row ∈ journal.rows cfg.world, Stores t.history row.actionId → row.state = .initiated

/-- A statement of `finalize` failed: the call has raised, with nothing finalized. -/
theorem faulted_of_meets {request : RedeliveryRequest} {h : History}
    {p : Action GitHubRedeliveryResult}
    (meets : Meets (MayCall service request) (Ended service request) p h)
    (faulted : faults h ≠ []) :
    finalizations h = [] ∧ ∃ message, p = .raise (.gitHubRedeliveryJournalUnavailable message) := by
  cases p with
  | ret result =>
      obtain ⟨entry, -, -, -, -, unfaulted, -⟩ := meets
      exact absurd unfaulted faulted
  | raise e =>
      obtain ⟨unfinalized, message, rfl⟩ := meets.2 faulted
      exact ⟨unfinalized, message, rfl⟩
  | call c k => exact absurd meets.1.1 faulted

/-- **Journal and outcome agree.**  In every configuration that redelivery
requests, in any number and order, reach over either journal. -/
theorem journal_agrees (service : GitHubRedeliveryService) (backend : DeliveryStoreBackend)
    {world : backend.journal.World}
    {cfg : Config Effects AppError GitHubRedeliveryResult RedeliveryRequest backend.journal.World}
    (empty : backend.journal.rows world = [])
    (reachable : (redeliverySystem service backend.journal).Reachable (fun _ _ => True) world cfg) :
    JournalAgrees backend.journal cfg := by
  have coherent := reachable_coherent empty reachable
  have entries : ∀ {i t}, cfg.threads i = some t → cfg.shown storedOf i = stored t.history :=
    fun running => Config.shown_of_running running
  -- a row reports what the history of its call shows
  have reports : ∀ row ∈ backend.journal.rows cfg.world, ∀ i t, cfg.threads i = some t →
      Stores t.history row.actionId → Reports (finalizations t.history) row := by
    rintro row mem i t running ⟨s, one, hid⟩
    have := coherent.reports mem ((entries running).trans one) hid
    rwa [Config.shown_of_running running] at this
  refine ⟨?_, ?_, ?_, ?_⟩
  · intro row mem
    obtain ⟨i, s, one, hid, -⟩ := coherent.owned row mem
    cases hi : cfg.threads i with
    | none =>
        rw [Config.shown, hi] at one
        cases one
    | some t =>
        refine ⟨i, t, hi, ⟨s, (entries hi).symm.trans one, hid⟩, ?_⟩
        rintro j t' running ⟨s', one', hid'⟩
        have mine := coherent.named i s (by rw [one]; exact List.mem_singleton_self s)
        exact coherent.owner_eq mine ((entries running).trans one') (hid'.trans hid.symm)
  · intro row mem i t running stores
    exact rowAgrees_of_reports (reachable_concluded reachable running)
      (reports row mem i t running stores)
  · intro i t result running hrest
    have meets := reachable_meets reachable running
    rw [hrest] at meets
    -- a call that returned has finalized its entry as accepted
    obtain ⟨s, one, hid, -, -, -, fin, finalized, -, accepted⟩ := meets
    refine ⟨⟨s, one, hid.symm⟩, ⟨fin, finalized, accepted⟩, fun row mem hrow => ?_⟩
    have hreports := reports row mem i t running ⟨s, one, hid.symm.trans hrow.symm⟩
    rw [finalized] at hreports
    exact state_of_terminalOfText hreports.1 accepted rfl
  · intro i t running faulted
    obtain ⟨unfinalized, message, hrest⟩ :=
      faulted_of_meets (reachable_meets reachable running) faulted
    refine ⟨⟨message, hrest⟩, fun row mem stores => ?_⟩
    have hreports := reports row mem i t running stores
    rw [unfinalized] at hreports
    exact hreports

/-! ## A run over the in-memory journal -/

/-- The in-memory journal with fixed answers from outside the process and the
number of identifiers issued so far as the next one. -/
def MemoryWorld.choose (outside : (c : Call) → c.Answer) (w : MemoryWorld) :
    (c : Call) → Option (c.Answer × MemoryWorld)
  | .now => some (outside .now, w)
  | .httpGet path perPage cursor => some (outside (.httpGet path perPage cursor), w)
  | .httpPost path => some (outside (.httpPost path), w)
  | .uuid4 =>
      let id : UUID := ⟨w.issued.card % 2 ^ 128, Nat.mod_lt _ (by decide)⟩
      if id ∈ w.issued then none else some (id, { w with issued := insert id w.issued })
  | .appendLeft entry => some ((), { w with store := w.store.appendLeft entry })
  | .finalizeEntry r =>
      match w.store.finalize r with
      | .ok (action, store) => some (.ok action, { w with store := store })
      | .error e => some (.error e, w)
  | .insert _ | .updateInitiated .. | .selectState _ => none

theorem MemoryWorld.choose_sound {outside : (c : Call) → c.Answer} {w w' : MemoryWorld} {c : Call}
    {a : c.Answer} (chosen : w.choose outside c = some (a, w')) : w.Answers c a w' := by
  cases c with
  | now | httpGet | httpPost | appendLeft => cases chosen; rfl
  | uuid4 =>
      rw [choose] at chosen
      split_ifs at chosen with fresh
      cases chosen
      exact ⟨fresh, rfl⟩
  | finalizeEntry r =>
      rw [choose] at chosen
      rw [Answers]
      cases hfinalize : w.store.finalize r with
      | ok result => rw [hfinalize] at chosen; cases chosen; exact ⟨rfl, rfl⟩
      | error e => rw [hfinalize] at chosen; cases chosen; exact ⟨rfl, rfl⟩
  | insert | updateInitiated | selectState => cases chosen

/-- A configuration of requests over the in-memory journal. -/
abbrev MemoryConfig :=
  Config Effects AppError GitHubRedeliveryResult RedeliveryRequest MemoryWorld

/-- The states of the rows. -/
def MemoryConfig.states (cfg : MemoryConfig) : List RecoveryActionState :=
  cfg.world.store.actions.map (·.state)

theorem journal_agrees_sample :
    ∃ cfg : MemoryConfig, cfg.states = [.accepted] ∧ JournalAgrees memoryJournal cfg := by
  have accepted : ((redeliverySystem sampleService memoryJournal).play
      (MemoryWorld.choose sampleOutside) (fun _ _ => true)
      (Config.initial (MemoryWorld.empty 1 (by decide)))
      (.start 0 sampleRequest :: List.replicate 7 (.go 0))).map MemoryConfig.states =
        some [.accepted] := by decide +kernel
  obtain ⟨cfg, played, states⟩ := Option.map_eq_some_iff.mp accepted
  have empty : memoryJournal.rows (MemoryWorld.empty 1 (by decide)) = [] := rfl
  exact ⟨cfg, states, journal_agrees sampleService .memory empty
    (System.reachable_of_play MemoryWorld.choose_sound (fun _ => trivial) .initial played)⟩

end WebhookMonitor
