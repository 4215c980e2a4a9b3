import WebhookMonitor.Pagination.Chain
import WebhookMonitor.Reconciliation.Completeness

/-!
# A bounded search continued is the full search

One call of `reconcile` fetches at most `maxPages` pages and hands out a cursor
when it stopped before the end.  `traversal` makes one call after another, each
with the cursor of the one before, until a search is complete.

The delivery history is what the client gets for each cursor.  Where it is a
finite `Pagination.Chain` that does not change, the traversal asks for the pages
of the chain in order, each once, and its results together are the matching
records of the whole chain (`traversal_eq_fullScan`).
-/

namespace WebhookMonitor

open Python Interaction Pagination

variable (service : GitHubReconciliationService) (attempt : DeliveryAttempt)

/-- Call `reconcile` until the search is complete, at most `rounds` times. -/
def traversal : ℕ → Option Str → Action (List GitHubReconciliationResult)
  | 0, _ => return []
  | rounds + 1, cursor => do
      let result ← service.reconcile attempt cursor
      if result.searchComplete then return [result]
      else
        let results ← traversal rounds result.nextCursor
        return result :: results

/-- The page the client gets for a cursor when the outside answers `outside`. -/
def upstreamPage (owner repository : Str) (outside : (c : Call) → c.Answer)
    (cursor : Option Str) : Except AppError GitHubDeliveryPage :=
  ((listRepositoryWebhookDeliveries service.limit owner repository
    attempt.deliveryIdentity.hookId cursor).run outside).2

/-- The history the client sees from `cursor`, to its end. -/
abbrev UpstreamHistory (owner repository : Str) (outside : (c : Call) → c.Answer) :
    Option Str → List (Option Str × GitHubDeliveryPage) → Prop :=
  Chain (upstreamPage service attempt owner repository outside) GitHubDeliveryPage.nextCursor

/-- The records of these pages that carry the GUID of the attempt. -/
def matchesAmong (asked : List (Option Str × GitHubDeliveryPage)) : List GitHubDeliverySummary :=
  asked.flatMap fun request => attempt.matchesOn request.2

/-- The cursors a run asked for pages with. -/
def cursorsAsked (h : History) : List (Option Str) := (listings h).map (·.cursor)

/-- The last of the results is complete, and no other. -/
def EndsComplete (results : List GitHubReconciliationResult) : Prop :=
  ∃ before last, results = before ++ [last] ∧ last.searchComplete = true ∧
    ∀ result ∈ before, result.searchComplete = false

theorem EndsComplete.singleton {result : GitHubReconciliationResult}
    (complete : result.searchComplete = true) : EndsComplete [result] :=
  ⟨[], result, rfl, complete, fun _ mem => absurd mem List.not_mem_nil⟩

theorem EndsComplete.cons {result : GitHubReconciliationResult}
    {results : List GitHubReconciliationResult} (incomplete : result.searchComplete = false)
    (ends : EndsComplete results) : EndsComplete (result :: results) := by
  obtain ⟨before, last, rfl, complete, others⟩ := ends
  refine ⟨result :: before, last, rfl, complete, fun other mem => ?_⟩
  rcases List.mem_cons.mp mem with rfl | mem
  · exact incomplete
  · exact others other mem

section Runs

variable {service attempt} {owner repository : Str} {outside : (c : Call) → c.Answer}
  {cursor : Option Str} {page : GitHubDeliveryPage}

@[simp] theorem cursorsAsked_append (h h' : History) :
    cursorsAsked (h ++ h') = cursorsAsked h ++ cursorsAsked h' := by
  rw [cursorsAsked, listings_append, List.map_append]
  rfl

/-- One page asks for one cursor, and announces one that can be written. -/
theorem upstreamPage_spec (got : upstreamPage service attempt owner repository outside cursor =
      .ok page) :
    cursorsAsked ((listRepositoryWebhookDeliveries service.limit owner repository
        attempt.deliveryIdentity.hookId cursor).run outside).1 = [cursor] ∧
      ∀ k, page.nextCursor = some k → isScalar k = true ∧ k ≠ [] := by
  rw [upstreamPage, listRepositoryWebhookDeliveries] at got
  rw [listRepositoryWebhookDeliveries]
  cases hpath : repositoryDeliveriesPath owner repository attempt.deliveryIdentity.hookId with
  | error e => simp [hpath] at got
  | ok path =>
      rw [hpath, uncaught_ok, Program.ofExcept_ok, Program.ret_bind, invoke,
        Program.perform_bind, Program.run_call] at got
      rw [uncaught_ok, Program.ofExcept_ok, Program.ret_bind, invoke, Program.perform_bind,
        Program.run_call]
      cases outcome : listingOutcome service.limit path
          (outside (.httpGet path repositoryDeliveriesPerPage cursor)) with
      | error e => simp [outcome] at got
      | ok page' =>
          rw [outcome] at got
          cases got
          refine ⟨rfl, fun k announced => ?_⟩
          cases answered : outside (.httpGet path repositoryDeliveriesPerPage cursor) with
          | error e =>
              rw [answered, listingOutcome] at outcome
              split_ifs at outcome
          | ok response =>
              have listed : (⟨path, cursor, .ok response⟩ : Listing).Got service page :=
                answered ▸ outcome
              have extracted := extractNextCursor_of_got listed rfl
              rw [announced] at extracted
              exact extractNextCursor_spec extracted

/-- The loop along a history that ends within the pages it may still fetch. -/
theorem fetchPages_run_complete {asked : List (Option Str × GitHubDeliveryPage)}
    (history : UpstreamHistory service attempt owner repository outside cursor asked)
    {remaining : ℕ} (fits : asked.length ≤ remaining) (matching : List GitHubDeliverySummary) :
    cursorsAsked ((service.fetchPages attempt owner repository remaining cursor matching).run
        outside).1 = asked.map Prod.fst ∧
      ((service.fetchPages attempt owner repository remaining cursor matching).run outside).2 =
        .ok { attempt, matching := matching ++ matchesAmong attempt asked, searchComplete := true,
              nextCursor := none } := by
  induction history generalizing remaining matching with
  | @last cursor page got ends =>
      obtain ⟨remaining, rfl⟩ := Nat.exists_eq_succ_of_ne_zero (Nat.ne_of_gt fits)
      have asks := (upstreamPage_spec got).1
      rw [GitHubReconciliationService.fetchPages, Program.run_bind got, ends]
      refine ⟨?_, ?_⟩
      · rw [cursorsAsked_append, asks]
        rfl
      · simp [matchesAmong]
  | @more cursor page k asked got goes_on rest ih =>
      obtain ⟨remaining, rfl⟩ := Nat.exists_eq_succ_of_ne_zero
        (Nat.ne_of_gt (Nat.lt_of_lt_of_le (Nat.succ_pos _) fits))
      rw [List.length_cons] at fits
      have asks := (upstreamPage_spec got).1
      obtain ⟨cursors, returned⟩ :=
        ih (Nat.le_of_succ_le_succ fits) (matching ++ attempt.matchesOn page)
      rw [GitHubReconciliationService.fetchPages, Program.run_bind got, goes_on]
      refine ⟨?_, ?_⟩
      · rw [cursorsAsked_append, asks, cursors]
        rfl
      · rw [returned, List.append_assoc]
        rfl

/-- The loop along a history that is longer than what it may still fetch. -/
theorem fetchPages_run_partial {asked : List (Option Str × GitHubDeliveryPage)}
    (history : UpstreamHistory service attempt owner repository outside cursor asked)
    {remaining : ℕ} (short : remaining < asked.length) (matching : List GitHubDeliverySummary) :
    ∃ next, encodeReconciliationCursor attempt.attemptId
          ((asked.drop remaining).head?.bind Prod.fst) = .ok next ∧
      cursorsAsked ((service.fetchPages attempt owner repository remaining cursor matching).run
        outside).1 = (asked.take remaining).map Prod.fst ∧
      ((service.fetchPages attempt owner repository remaining cursor matching).run outside).2 =
        .ok { attempt, matching := matching ++ matchesAmong attempt (asked.take remaining),
              searchComplete := false, nextCursor := some next } := by
  induction remaining generalizing cursor asked matching with
  | zero =>
      -- the budget is spent at the next cursor of the history
      have stands : (asked.drop 0).head?.bind Prod.fst = cursor := by
        rw [List.drop_zero]
        cases history <;> rfl
      rw [stands, GitHubReconciliationService.fetchPages]
      cases encoded : encodeReconciliationCursor attempt.attemptId cursor with
      | error e => exact absurd encoded (encodeReconciliationCursor_ne_error _ _ _)
      | ok next =>
          refine ⟨next, rfl, rfl, ?_⟩
          simp [matchesAmong]
  | succ remaining ih =>
      cases history with
      | last got ends =>
          rw [List.length_singleton] at short
          omega
      | @more _ page k asked got goes_on rest =>
          rw [List.length_cons] at short
          have asks := (upstreamPage_spec got).1
          obtain ⟨next, encoded, cursors, returned⟩ :=
            ih rest (Nat.lt_of_succ_lt_succ short) (matching ++ attempt.matchesOn page)
          refine ⟨next, encoded, ?_, ?_⟩
          · rw [GitHubReconciliationService.fetchPages, Program.run_bind got, goes_on,
              cursorsAsked_append, asks, cursors]
            rfl
          · rw [GitHubReconciliationService.fetchPages, Program.run_bind got, goes_on, returned,
              List.append_assoc]
            rfl

/-- A call that gets as far as the loop. -/
theorem reconcile_eq_fetchPages {start : Option Str}
    (on : (service.enabled && service.hasGithubClient) = true)
    (coordinates : repositoryCoordinates attempt = .ok (owner, repository))
    (resumes : service.resumeAt attempt cursor = .ok start) :
    service.reconcile attempt cursor =
      service.fetchPages attempt owner repository service.maxPages start [] := by
  have goes_ahead : ¬ (!service.enabled || !service.hasGithubClient) = true := by
    rw [← Bool.not_and, on, Bool.not_true]
    exact Bool.false_ne_true
  rw [GitHubReconciliationService.reconcile, if_neg goes_ahead, coordinates, resumes]
  rfl

/-- A cursor handed out in the middle of a history resumes there. -/
theorem resumeAt_of_partial {asked : List (Option Str × GitHubDeliveryPage)} {next : Str}
    (history : UpstreamHistory service attempt owner repository outside cursor asked)
    (pos : 0 < service.maxPages) (short : service.maxPages < asked.length)
    (encoded : encodeReconciliationCursor attempt.attemptId
      ((asked.drop service.maxPages).head?.bind Prod.fst) = .ok next) :
    ∃ k, service.resumeAt attempt (some next) = .ok (some k) ∧
      UpstreamHistory service attempt owner repository outside (some k)
        (asked.drop service.maxPages) := by
  obtain ⟨request, mem, k, announced, rest⟩ := history.drop pos short
  obtain ⟨scalar, nonempty⟩ :=
    (upstreamPage_spec (history.fetched request mem)).2 k announced
  have stands : (asked.drop service.maxPages).head?.bind Prod.fst = some k := by
    have := rest.head?_eq
    cases hdrop : (asked.drop service.maxPages).head? with
    | none => rw [hdrop] at this; cases this
    | some request' =>
        rw [hdrop, Option.map_some, Option.some.injEq] at this
        exact this
  rw [stands] at encoded
  refine ⟨k, ?_, rest⟩
  rw [GitHubReconciliationService.resumeAt,
    decodeReconciliationCursor_encode scalar nonempty encoded]
  rfl

/-- The traversal from anywhere in the history, by induction on the calls. -/
theorem traversal_run {start : Option Str} {asked : List (Option Str × GitHubDeliveryPage)}
    (on : (service.enabled && service.hasGithubClient) = true) (pos : 0 < service.maxPages)
    (coordinates : repositoryCoordinates attempt = .ok (owner, repository))
    (history : UpstreamHistory service attempt owner repository outside start asked)
    (resumes : service.resumeAt attempt cursor = .ok start) {rounds : ℕ}
    (enough : asked.length ≤ rounds) :
    ∃ results, ((traversal service attempt rounds cursor).run outside).2 = .ok results ∧
      cursorsAsked ((traversal service attempt rounds cursor).run outside).1 =
        asked.map Prod.fst ∧
      results.flatMap (·.matching) = matchesAmong attempt asked ∧ EndsComplete results := by
  -- by the rounds left; each takes at least one page off the history
  induction rounds generalizing cursor start asked with
  | zero => exact absurd (List.eq_nil_of_length_eq_zero (Nat.le_zero.mp enough)) history.ne_nil
  | succ rounds ih =>
      have call := reconcile_eq_fetchPages on coordinates resumes
      rw [traversal, call]
      by_cases fits : asked.length ≤ service.maxPages
      · -- this call reaches the end
        obtain ⟨cursors, returned⟩ := fetchPages_run_complete history fits []
        rw [Program.run_bind returned, if_pos rfl]
        refine ⟨_, rfl, ?_, ?_, .singleton rfl⟩
        · rw [cursorsAsked_append, cursors]
          exact List.append_nil _
        · simp
      · -- it stops before the end, and the rest of the traversal goes on from there
        have short := Nat.lt_of_not_le fits
        obtain ⟨next, encoded, cursors, returned⟩ := fetchPages_run_partial history short []
        obtain ⟨k, resumes', rest⟩ := resumeAt_of_partial history pos short encoded
        have fewer : (asked.drop service.maxPages).length ≤ rounds := by
          rw [List.length_drop]
          omega
        obtain ⟨results, returned', cursors', found, ends⟩ := ih rest resumes' fewer
        rw [Program.run_bind returned, if_neg Bool.false_ne_true, Program.run_bind returned']
        refine ⟨_, rfl, ?_, ?_, ends.cons rfl⟩
        · rw [cursorsAsked_append, cursorsAsked_append, cursors, cursors', ← List.append_assoc,
            ← List.map_append, List.take_append_drop]
          exact List.append_nil _
        · rw [List.flatMap_cons, found, List.nil_append, matchesAmong, matchesAmong, matchesAmong,
            ← List.flatMap_append, List.take_append_drop]

/-- No run of a call asks for more pages than it may, whatever the answers. -/
theorem reconcile_bounded {h : History} {rest : Action GitHubReconciliationResult}
    (run : Trace (service.reconcile attempt cursor) h rest) :
    (listings h).length ≤ service.maxPages := by
  refine (reconcile_meets service attempt cursor).history_invariant
    (P := fun h => (listings h).length ≤ service.maxPages) ?_ run (Nat.zero_le _)
  rintro h c answer ⟨owner, repository, start, -, -, may⟩ -
  obtain ⟨-, -, fewer, path, asked, rfl⟩ := may
  rw [listings_append, List.length_append]
  exact fewer

/-- A result is complete exactly when it hands out no cursor. -/
theorem searchComplete_iff {h : History} {result : GitHubReconciliationResult}
    (run : Trace (service.reconcile attempt cursor) h (.ret result)) :
    result.searchComplete = true ↔ result.nextCursor = none := by
  obtain ⟨-, -, owner, repository, start, pages, -, -, -, concludes⟩ :=
    (reconcile_meets service attempt cursor).post_of_trace run rfl
  rcases concludes.ending with ⟨complete, none, -, -⟩ | ⟨incomplete, -, -, next, -, some⟩
  · simp [complete, none]
  · simp [incomplete, some]

end Runs

/-! ## The full scan -/

/-- The results of a traversal and its history are those of a scan of the whole
history `asked`. -/
structure FullScan (asked : List (Option Str × GitHubDeliveryPage)) (h : History)
    (results : List GitHubReconciliationResult) : Prop where
  inOrder : cursorsAsked h = asked.map Prod.fst
  once : (cursorsAsked h).Nodup
  matching : results.flatMap (·.matching) =
    (asked.flatMap fun request => request.2.deliveries).filter fun delivery =>
      delivery.deliveryGuid = attempt.deliveryIdentity.deliveryGuid
  complete : EndsComplete results

/-- **A bounded search continued is the full search.**  However many pages a call
may fetch, the traversal of a finite history asks for its pages in order, each
once, and finds the records of the attempt in all of them.  No call fetches more
pages than it may, whatever the history, and a result has a cursor exactly when
it is not complete. -/
theorem traversal_eq_fullScan :
    (∀ cursor h rest, Trace (service.reconcile attempt cursor) h rest →
      (listings h).length ≤ service.maxPages) ∧
    (∀ cursor h result, Trace (service.reconcile attempt cursor) h (.ret result) →
      (result.searchComplete = true ↔ result.nextCursor = none)) ∧
    ∀ owner repository, (service.enabled && service.hasGithubClient) = true →
      1 ≤ service.maxPages → repositoryCoordinates attempt = .ok (owner, repository) →
      ∀ outside asked, UpstreamHistory service attempt owner repository outside none asked →
      ∀ rounds, asked.length ≤ rounds →
        ∃ results, ((traversal service attempt rounds none).run outside).2 = .ok results ∧
          FullScan attempt asked ((traversal service attempt rounds none).run outside).1
            results := by
  refine ⟨fun cursor h rest run => reconcile_bounded run,
    fun cursor h result run => searchComplete_iff run, ?_⟩
  intro owner repository on pos coordinates outside asked history rounds enough
  have fresh : service.resumeAt attempt none = .ok none := rfl
  obtain ⟨results, returned, cursors, found, ends⟩ :=
    traversal_run on pos coordinates history fresh enough
  refine ⟨results, returned, cursors, cursors ▸ history.nodup, ?_, ends⟩
  rw [found, matchesAmong, List.filter_flatMap]
  rfl

/-! ## A history of two pages -/

/-- The next page under the path the client asks for. -/
def secondPageLink : HeaderText :=
  ⟨"<https://api.github.com/repos/o/r/hooks/3/deliveries?cursor=c>; rel=\"next\"", by decide⟩

/-- A history of two pages, the second with a record of the attempt. -/
def twoPages : (c : Call) → c.Answer
  | .httpGet _ _ none => Except.ok (emptyPage (some secondPageLink))
  | .httpGet _ _ (some _) => Except.ok
      { emptyPage none with
        content := (Str.lit ("[\x7b\"id\":7,\"guid\":\"g\",\"redelivery\":false," ++
          "\"delivered_at\":\"2024-01-01T00:00:00Z\"\x7d]")).map fun c => UInt8.ofNat c.val }
  | c => answering (emptyPage none) c

theorem traversal_eq_fullScan_sample :
    ∃ asked results, asked.length = 2 ∧
      ((traversal onePageService sampleAttempt 2 none).run twoPages).2 = .ok results ∧
      FullScan sampleAttempt asked
        ((traversal onePageService sampleAttempt 2 none).run twoPages).1 results := by
  have first : (upstreamPage onePageService sampleAttempt "o" "r" twoPages none).toOption.any
      (fun page => page.nextCursor = some (Str.lit "c")) = true := by decide +kernel
  have second : (upstreamPage onePageService sampleAttempt "o" "r" twoPages
      (some "c")).toOption.any (fun page => page.nextCursor = none) = true := by decide +kernel
  cases got : upstreamPage onePageService sampleAttempt "o" "r" twoPages none with
  | error e => rw [got] at first; cases first
  | ok page =>
      cases got' : upstreamPage onePageService sampleAttempt "o" "r" twoPages (some "c") with
      | error e => rw [got'] at second; cases second
      | ok page' =>
          rw [got] at first
          rw [got'] at second
          obtain ⟨results, returned, scan⟩ := (traversal_eq_fullScan onePageService
            sampleAttempt).2.2 "o" "r" rfl le_rfl (by decide +kernel) twoPages _
            (.more got (of_decide_eq_true first) (.last got' (of_decide_eq_true second))) 2 le_rfl
          exact ⟨_, results, rfl, returned, scan⟩

end WebhookMonitor
