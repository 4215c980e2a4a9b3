import WebhookMonitor.History
import WebhookMonitor.Services.GitHubReconciliation

/-!
# What a search shows

A reconciliation asks for pages and does nothing else.  `Searched` says what its
history shows: the pages belong to the hook of the attempt, the first is asked
for with the cursor the search starts from, each later one with the cursor the
page before announced.  `Concludes` says what the result makes of those pages.

`reconcile_meets` is the one lemma about `reconcile` that the theorems about
reconciliation and redelivery use.
-/

namespace WebhookMonitor

open Python Interaction

variable (service : GitHubReconciliationService) (attempt : DeliveryAttempt)

/-- The page a listing got. -/
def Listing.Got (l : Listing) (page : GitHubDeliveryPage) : Prop :=
  listingOutcome service.limit l.path l.answer = .ok page

/-- Where a search from `start` stands after these pages: the cursor of the next
one, if there is one. -/
def cursorAfter (start : Option Str) (pages : List GitHubDeliveryPage) : Option Str :=
  match pages.getLast? with
  | some page => page.nextCursor
  | none => start

/-- The listings `ls` are those of a search from `start` that got `pages`. -/
structure Searched (owner repository : Str) (start : Option Str) (ls : List Listing)
    (pages : List GitHubDeliveryPage) : Prop where
  path : ∀ l ∈ ls,
    repositoryDeliveriesPath owner repository attempt.deliveryIdentity.hookId = .ok l.path
  got : List.Forall₂ (Listing.Got service) ls pages
  cursors : ls.map (·.cursor) ++ [cursorAfter start pages] = start :: pages.map (·.nextCursor)
  continued : ∀ page ∈ pages.dropLast, page.nextCursor ≠ none

/-- What the result of a search makes of its pages: the records that match, in
order, and either the end of the history or a cursor to go on from. -/
structure Concludes (start : Option Str) (pages : List GitHubDeliveryPage)
    (result : GitHubReconciliationResult) : Prop where
  sameAttempt : result.attempt = attempt
  matching : result.matching = pages.flatMap attempt.matchesOn
  ending : (result.searchComplete = true ∧ result.nextCursor = none ∧ pages ≠ [] ∧
      cursorAfter start pages = none) ∨
    (result.searchComplete = false ∧ pages.length = service.maxPages ∧
      (pages ≠ [] → cursorAfter start pages ≠ none) ∧
      ∃ next, encodeReconciliationCursor attempt.attemptId (cursorAfter start pages) = .ok next ∧
        result.nextCursor = some next)

/-- Why a search raised. -/
inductive SearchFailure (cursor : Option Str) (ls : List Listing) : AppError → Prop where
  | disabled (off : (service.enabled && service.hasGithubClient) = false) :
      SearchFailure cursor ls .gitHubReconciliationDisabled
  | target {e : AppError} (refused : repositoryCoordinates attempt = .error e) :
      SearchFailure cursor ls e
  | cursor {e : AppError} (refused : service.resumeAt attempt cursor = .error e) :
      SearchFailure cursor ls e
  | path {owner repository : Str} {e : BuiltinError}
      (coordinates : repositoryCoordinates attempt = .ok (owner, repository))
      (unquotable : repositoryDeliveriesPath owner repository attempt.deliveryIdentity.hookId =
        .error e) : SearchFailure cursor ls (.python e)
  | listing {l : Listing} {e : AppError} (asked : l ∈ ls)
      (failed : listingOutcome service.limit l.path l.answer = .error e) :
      SearchFailure cursor ls e

/-- A search asks for one more page. -/
def MayList (owner repository : Str) (start : Option Str) (h : History) (c : Call) : Prop :=
  OnlyListings h ∧ (∃ pages, Searched service attempt owner repository start (listings h) pages) ∧
    (listings h).length < service.maxPages ∧
    ∃ path cursor, c = .httpGet path repositoryDeliveriesPerPage cursor

/-- How a search ends. -/
def Listed (owner repository : Str) (cursor start : Option Str) (h : History)
    (r : Except AppError GitHubReconciliationResult) : Prop :=
  OnlyListings h ∧ (listings h).length ≤ service.maxPages ∧
    match r with
    | .ok result => ∃ pages, Searched service attempt owner repository start (listings h) pages ∧
        Concludes service attempt start pages result
    | .error e => SearchFailure service attempt cursor (listings h) e

variable {service attempt} {owner repository : Str} {start : Option Str}
  {ls : List Listing} {pages : List GitHubDeliveryPage}

@[simp] theorem cursorAfter_nil : cursorAfter start [] = start := rfl

@[simp] theorem cursorAfter_concat (page : GitHubDeliveryPage) :
    cursorAfter start (pages ++ [page]) = page.nextCursor := by
  rw [cursorAfter, List.getLast?_concat]

theorem Searched.nil : Searched service attempt owner repository start [] [] where
  path := fun _ mem => absurd mem List.not_mem_nil
  got := .nil
  cursors := rfl
  continued := fun _ mem => absurd mem List.not_mem_nil

theorem Searched.length (searched : Searched service attempt owner repository start ls pages) :
    pages.length = ls.length := searched.got.length_eq.symm

/-- The first listing asks with the cursor the search starts from. -/
theorem Searched.first (searched : Searched service attempt owner repository start ls pages)
    {l : Listing} (head : ls.head? = some l) : l.cursor = start := by
  cases ls with
  | nil => cases head
  | cons first rest =>
      cases head
      have := searched.cursors
      rw [List.map_cons, List.cons_append, List.cons.injEq] at this
      exact this.1

/-- One more page. -/
theorem Searched.snoc (searched : Searched service attempt owner repository start ls pages)
    {path : Str} {answer : Except HttpClientError HttpResponse} {page : GitHubDeliveryPage}
    (pathOk : repositoryDeliveriesPath owner repository attempt.deliveryIdentity.hookId = .ok path)
    (goes_on : pages ≠ [] → cursorAfter start pages ≠ none)
    (got : listingOutcome service.limit path answer = .ok page) :
    Searched service attempt owner repository start
      (ls ++ [⟨path, cursorAfter start pages, answer⟩]) (pages ++ [page]) := by
  refine ⟨?_, ?_, ?_, ?_⟩
  · intro l mem
    rcases List.mem_append.mp mem with mem | mem
    · exact searched.path l mem
    · obtain rfl := List.mem_singleton.mp mem
      exact pathOk
  · exact List.rel_append searched.got (.cons got .nil)
  · rw [cursorAfter_concat, List.map_append, List.map_append, ← List.cons_append,
      ← searched.cursors]
    rfl
  · intro p mem
    rw [List.dropLast_concat] at mem
    rcases List.eq_nil_or_concat pages with rfl | ⟨before, last, rfl⟩
    · cases mem
    · rw [List.concat_eq_append] at mem goes_on
      rcases List.mem_append.mp mem with mem | mem
      · refine searched.continued p ?_
        rw [List.concat_eq_append, List.dropLast_concat]
        exact mem
      · obtain rfl := List.mem_singleton.mp mem
        have := goes_on (by simp)
        rwa [cursorAfter_concat] at this

/-- The page loop, by induction on the pages that may still be fetched. -/
theorem fetchPages_meets (cursor : Option Str)
    (coordinates : repositoryCoordinates attempt = .ok (owner, repository))
    (remaining : ℕ) {h : History} {pages : List GitHubDeliveryPage} (only : OnlyListings h)
    (searched : Searched service attempt owner repository start (listings h) pages)
    (goes_on : pages ≠ [] → cursorAfter start pages ≠ none)
    (count : (listings h).length + remaining = service.maxPages) :
    Meets (MayList service attempt owner repository start)
      (Listed service attempt owner repository cursor start)
      (service.fetchPages attempt owner repository remaining (cursorAfter start pages)
        (pages.flatMap attempt.matchesOn)) h := by
  induction remaining generalizing h pages with
  | zero =>
      rw [GitHubReconciliationService.fetchPages]
      cases hnext : encodeReconciliationCursor attempt.attemptId (cursorAfter start pages) with
      | error e => exact absurd hnext (encodeReconciliationCursor_ne_error _ _ _)
      | ok next =>
          rw [uncaught_ok, Program.ofExcept_ok, Program.ret_bind, Program.pure_eq, meets_ret]
          -- the budget is spent and the last page names another
          have full : pages.length = service.maxPages := by
            have := searched.length
            omega
          have concludes : Concludes service attempt start pages
              { attempt, matching := pages.flatMap attempt.matchesOn, searchComplete := false,
                nextCursor := some next } :=
            ⟨rfl, rfl, .inr ⟨rfl, full, goes_on, next, hnext, rfl⟩⟩
          exact ⟨only, by omega, pages, searched, concludes⟩
  | succ remaining ih =>
      rw [GitHubReconciliationService.fetchPages, listRepositoryWebhookDeliveries]
      cases hpath : repositoryDeliveriesPath owner repository attempt.deliveryIdentity.hookId with
      | error e =>
          rw [uncaught_error, Program.ofExcept_error, Program.raise_bind, Program.raise_bind,
            meets_raise]
          exact ⟨only, by omega, .path coordinates hpath⟩
      | ok path =>
          rw [uncaught_ok, Program.ofExcept_ok, Program.ret_bind, invoke, Program.perform_bind,
            Program.call_bind, meets_call]
          refine ⟨⟨only, ⟨pages, searched⟩, by omega, path, _, rfl⟩, fun answer => ?_⟩
          -- the exchange that is added to the history
          generalize hl : (⟨path, cursorAfter start pages, answer⟩ : Listing) = l
          generalize hh : h ++ [(⟨.httpGet path repositoryDeliveriesPerPage
            (cursorAfter start pages), answer⟩ : Event Effects)] = h'
          have only' : OnlyListings h' := hh ▸ only.snoc path repositoryDeliveriesPerPage _ answer
          have shows : listings h' = listings h ++ [l] := by
            rw [← hh, ← hl]
            exact shown_of_some listingOf rfl h
          have length : (listings h').length = (listings h).length + 1 := by
            rw [shows, List.length_append, List.length_singleton]
          cases got : listingOutcome service.limit path answer with
          | error e =>
              rw [Program.ofExcept_error, Program.raise_bind, meets_raise]
              refine ⟨only', by omega, .listing (l := l) ?_ (hl ▸ got)⟩
              rw [shows]
              exact List.mem_append_right _ (List.mem_singleton_self _)
          | ok page =>
              have searched' := searched.snoc hpath goes_on got
              rw [hl, ← shows] at searched'
              have matching : pages.flatMap attempt.matchesOn ++ attempt.matchesOn page =
                  (pages ++ [page]).flatMap attempt.matchesOn := by simp
              rw [Program.ofExcept_ok, Program.ret_bind, matching]
              cases hnext : page.nextCursor with
              -- the search is complete
              | none =>
                  rw [Program.pure_eq, meets_ret]
                  have ends : cursorAfter start (pages ++ [page]) = none := by
                    rw [cursorAfter_concat, hnext]
                  have concludes : Concludes service attempt start (pages ++ [page])
                      { attempt, matching := (pages ++ [page]).flatMap attempt.matchesOn,
                        searchComplete := true, nextCursor := none } :=
                    ⟨rfl, rfl, .inl ⟨rfl, rfl, by simp, ends⟩⟩
                  exact ⟨only', by omega, _, searched', concludes⟩
              -- the loop goes on with the cursor of the page
              | some c =>
                  have stands : cursorAfter start (pages ++ [page]) = some c := by
                    rw [cursorAfter_concat, hnext]
                  have := ih only' searched' (fun _ => by rw [stands]; exact Option.some_ne_none c)
                    (by omega)
                  rwa [stands] at this

variable (service attempt) in
/-- A reconciliation, as the first thing that is done. -/
theorem reconcile_meets (cursor : Option Str) :
    Meets (fun h c => ∃ owner repository start,
        repositoryCoordinates attempt = .ok (owner, repository) ∧
          service.resumeAt attempt cursor = .ok start ∧
          MayList service attempt owner repository start h c)
      (fun h r => OnlyListings h ∧ (listings h).length ≤ service.maxPages ∧
        match r with
        | .ok result => ∃ owner repository start pages,
            repositoryCoordinates attempt = .ok (owner, repository) ∧
              service.resumeAt attempt cursor = .ok start ∧
              Searched service attempt owner repository start (listings h) pages ∧
              Concludes service attempt start pages result
        | .error e => SearchFailure service attempt cursor (listings h) e)
      (service.reconcile attempt cursor) [] := by
  rw [GitHubReconciliationService.reconcile]
  cases hon : service.enabled && service.hasGithubClient with
  | false =>
      have off : (!service.enabled || !service.hasGithubClient) = true := by
        rw [← Bool.not_and, hon, Bool.not_false]
      rw [if_pos off, Program.throw_eq, meets_raise]
      exact ⟨.nil, Nat.zero_le _, .disabled hon⟩
  | true =>
      have on : ¬ (!service.enabled || !service.hasGithubClient) = true := by
        rw [← Bool.not_and, hon, Bool.not_true]
        exact Bool.false_ne_true
      rw [if_neg on]
      cases coordinates : repositoryCoordinates attempt with
      | error e =>
          rw [Program.ofExcept_error, Program.raise_bind, meets_raise]
          exact ⟨.nil, Nat.zero_le _, .target coordinates⟩
      | ok target =>
          obtain ⟨owner, repository⟩ := target
          rw [Program.ofExcept_ok, Program.ret_bind]
          -- the cursor is read before anything is asked
          cases resume : service.resumeAt attempt cursor with
          | error e =>
              change Meets _ _ (Program.ofExcept (.error e) >>= fun upstreamCursor =>
                service.fetchPages attempt owner repository service.maxPages upstreamCursor []) []
              rw [Program.ofExcept_error, Program.raise_bind, meets_raise]
              exact ⟨.nil, Nat.zero_le _, .cursor resume⟩
          | ok start =>
              change Meets _ _
                (service.fetchPages attempt owner repository service.maxPages start []) []
              have start_nothing : (listings []).length + service.maxPages = service.maxPages :=
                Nat.zero_add _
              refine meets_mono (fun h c may => ⟨owner, repository, start, rfl, rfl, may⟩)
                (fun h r listed => ?_)
                (fetchPages_meets cursor coordinates service.maxPages .nil .nil
                  (fun nonempty => absurd rfl nonempty) start_nothing)
              obtain ⟨only, bounded, result⟩ := listed
              refine ⟨only, bounded, ?_⟩
              cases r with
              | ok result' =>
                  obtain ⟨pages, searched, concludes⟩ := result
                  exact ⟨owner, repository, start, pages, rfl, rfl, searched, concludes⟩
              | error e => exact result

end WebhookMonitor
